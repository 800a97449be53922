import Gamebook.Analysis.Distinct
import Gamebook.Story.Graph

/-!
# Playthroughs

A playthrough is a route from a start group to its end: to an ending, or to a group none of whose
variants has a choice that leads anywhere.  Two routes through the same groups are the same
playthrough, whichever variants the reader was shown, so a route is walked group by group, and each
group on it is shown by its first variant.  From a group the reader may take any choice of any of its
variants, but not into a group on the route that must not be entered again.

Groups that may be entered again can make routes of any length.  A route is given up once it is longer
than five times the number of groups; what is counted then is every variant that a choice would have
led to.
-/

namespace Gamebook.Analysis

open Gamebook.Story

/-- A route from a start to its end, one variant for each group on it. -/
structure Playthrough where
  /-- The variants in the order in which they are read. -/
  nodes : List Node
  deriving DecidableEq

namespace Playthrough

/-- The number of variants read. -/
def length (route : Playthrough) : Nat := route.nodes.length

/-- The groups of the route. -/
def groupNames (route : Playthrough) : List String := route.nodes.map (·.group)

/-- The source ids along the route. -/
def sourceIds (route : Playthrough) : List String := route.nodes.map (·.sourceId)

end Playthrough

/-- What a search for playthroughs has found. -/
structure PlaythroughSearch where
  /-- The routes that came to an end. -/
  playthroughs : List Playthrough := []
  /-- How often a variant was not entered because the route was too long. -/
  cutoffs : Nat := 0
  deriving DecidableEq, Inhabited

/-- The findings of several searches, one after the other. -/
def PlaythroughSearch.join (searches : List PlaythroughSearch) : PlaythroughSearch where
  playthroughs := searches.flatMap (·.playthroughs)
  cutoffs := searches.foldr (fun search count => search.cutoffs + count) 0

/-- Some choice of some variant leads to a group that exists. -/
def leadsOn (graph : Graph) (group : Group) : Bool := group.targets.any graph.contains

/-- The groups that a reader may go on to at the end of a route, one for every choice of every variant
of the last group.  `route` holds the variants read, the latest first. -/
def admissible (graph : Graph) (route : List Node) (group : Group) : List Group :=
  (group.targets.filterMap graph.find?).filter fun next =>
    next.revisit || !route.any fun node => node.group == next.name

/-- The playthroughs that continue a route into a group.  `before` holds the variants read before it,
the latest first, and `room` says how many groups may follow. -/
def continueInto (graph : Graph) : (room : Nat) → (before : List Node) → Group → PlaythroughSearch
  | room, before, group =>
    match group.variants with
    | [] => {}
    | shown :: _ =>
      let route := shown :: before
      if group.isEnding || !leadsOn graph group then { playthroughs := [⟨route.reverse⟩] }
      else
        match room with
        | 0 => { cutoffs := ((admissible graph route group).flatMap (·.variants)).length }
        | room + 1 =>
          .join ((firstBy (·.name) (admissible graph route group)).map
            fun next => continueInto graph room route next)

/-- How many groups may follow the first on a route, as a multiple of the number of groups. -/
def routeLengthFactor : Nat := 5

/-- The playthroughs of a story, in the order in which they are found. -/
def searchPlaythroughs (graph : Graph) : PlaythroughSearch :=
  .join (graph.startGroups.map
    fun group => continueInto graph (routeLengthFactor * graph.groupCount) [] group)

/-- How far the length of a playthrough may be from the mean unless something else is asked for. -/
def defaultDeviation : Float := 1.0

/-- The playthroughs whose length differs from the mean length by more than the deviation. -/
def abnormalPlaythroughs (graph : Graph) (deviation : Float) : List Playthrough :=
  let all := (searchPlaythroughs graph).playthroughs
  let mean := (all.flatMap (·.nodes)).length.toFloat / all.length.toFloat
  all.filter fun route => (route.length.toFloat - mean).abs > deviation

end Gamebook.Analysis
