import FiveStage.Log.Directive

/-!
# Log filters

A filter is a list of directives between commas.  Of the directives that match an event the most
specific one decides, and of two equally specific ones the later.
-/

namespace FiveStage.Log

abbrev Filter := List Directive

namespace Filter

def ofLevel (level : Level) : Filter := [{ threshold := some level }]

/-- The directives in a text.  No directive at all shows errors only. -/
def parse? (text : String) : Option Filter :=
  let pieces := (text.toList.splitOn ',').filter (· ≠ [])
  if pieces = [] then some (ofLevel .error) else pieces.mapM Directive.parse?

def deciding? (filter : Filter) (e : Event) : Option Directive :=
  (filter.filter (·.applies e)).foldl
    (fun best d =>
      match best with
      | some other => if d.overrules other then some d else best
      | none => some d)
    none

/-- An event that no directive matches is not shown. -/
def shows (filter : Filter) (e : Event) : Bool :=
  match (filter.deciding? e).bind (·.threshold) with
  | some threshold => e.level.shownAt threshold
  | none => false

def lines (filter : Filter) (events : List Event) : List String :=
  (events.filter filter.shows).map Event.line

end Filter

end FiveStage.Log
