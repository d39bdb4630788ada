import FiveStage.Pipeline.Statistics
import FiveStage.Text.FixedPoint

/-!
# The statistics report

Rates made from the counters, and the table that is printed at the end of a run.
-/

namespace FiveStage.Statistics

def rate (part whole : Nat) : Float :=
  if whole = 0 then 0.0 else Float.ofNat part / Float.ofNat whole

def cpi (s : Statistics) : Float := rate s.cycles s.retired

def ipc (s : Statistics) : Float := rate s.retired s.cycles

def percentOfCycles (s : Statistics) (count : Nat) : Float := rate count s.cycles * 100.0

def ruleWidth : Nat := 58

def heavyRule : String := String.ofList (List.replicate ruleWidth '=')

def lightRule : String := String.ofList (List.replicate ruleWidth '-')

def entry (name value : String) : String := Text.alignLeft 25 name ++ value

def report (s : Statistics) : String :=
  let percent := Text.fixedPlaces 2 (s.percentOfCycles s.loadUseStalls)
  "\n".intercalate
    [ heavyRule
    , "PIPELINE STATISTICS"
    , heavyRule
    , entry "sim_cycles" (toString s.cycles)
    , entry "sim_insts" (toString s.retired)
    , entry "sim_cpi" (Text.fixedPlaces 4 s.cpi)
    , entry "sim_ipc" (Text.fixedPlaces 4 s.ipc)
    , lightRule
    , "INSTRUCTION MIX"
    , entry "  inst.alu" (toString s.calculations)
    , entry "  inst.load" (toString s.loads)
    , entry "  inst.store" (toString s.stores)
    , entry "  inst.branch" (toString s.transfers)
    , lightRule
    , "HAZARDS"
    , entry "  stalls.load_use" s!"{s.loadUseStalls} ({percent}%)"
    , entry "  forward.ex_mem" (toString s.forwardsExMem)
    , entry "  forward.mem_wb" (toString s.forwardsMemWb)
    , entry "  flushes" (toString s.flushes)
    , entry "  squashed" (toString s.squashed)
    , heavyRule ]

end FiveStage.Statistics
