import QueryComposer.Query.JoinEdit

set_option autoImplicit false

/-!
Suggestions for the columns of a join. A request remembers the join and the two tables it is about;
an answer is stored in the join only while these are still its tables.
-/

namespace QueryComposer

open QueryComposer.Number

/-- How suggestions are used. -/
structure SuggestionSettings where
  autoApply : Bool := true
  minConfidence : Binary64 := .zero false
deriving DecidableEq, Repr

/-- A request for suggestions about a join. -/
structure SuggestionRequest where
  joinId : JoinId
  leftTable : TableId
  rightTable : TableId
  source : String
  leftName : String
  rightName : String
deriving DecidableEq, Repr

namespace SuggestionRequest

def toJson (request : SuggestionRequest) : Json :=
  .object [("join", request.joinId.toJson), ("left", request.leftTable.toJson),
    ("right", request.rightTable.toJson), ("source", .string request.source),
    ("left_table", .string request.leftName), ("right_table", .string request.rightName)]

end SuggestionRequest

/-- What became of an answer. -/
inductive SuggestionOutcome
  | applied (leftColumn rightColumn : String)
  | stored (count : Nat)
  | noSuggestion
  | unavailable (reason : String)
  | stale
  | joinRemoved
deriving DecidableEq, Repr

namespace SuggestionOutcome

def toJson : SuggestionOutcome → Json
  | .applied left right => .object [("applied", .array [.string left, .string right])]
  | .stored count => .object [("stored", .ofNat count)]
  | .noSuggestion => .string "no_suggestion"
  | .unavailable reason => .object [("unavailable", .string reason)]
  | .stale => .string "stale"
  | .joinRemoved => .string "join_removed"

end SuggestionOutcome

namespace RelationshipSuggestion

/-- The suggestion is sure enough to be kept. -/
def passes (minConfidence : Binary64) (suggestion : RelationshipSuggestion) : Bool :=
  suggestion.confidence.isFinite && minConfidence.le suggestion.confidence

/-- The suggestions that are sure enough, the surest first; equally sure ones keep their order. -/
def ranked (minConfidence : Binary64) (suggestions : List RelationshipSuggestion) :
    List RelationshipSuggestion :=
  (suggestions.filter (passes minConfidence)).mergeSort
    (fun left right => right.confidence.totalLe left.confidence)

end RelationshipSuggestion

namespace Join

/-- Store suggestions, and choose the columns of the first one if none are chosen and this is
wanted. -/
def withSuggestions (join : Join) (autoApply : Bool) (ranked : List RelationshipSuggestion) :
    SuggestionOutcome × Join :=
  let stored := { join with suggestions := ranked }
  match ranked with
  | [] => (.noSuggestion, stored)
  | top :: _ =>
    if autoApply && join.leftColumn.isNone && join.rightColumn.isNone then
      (.applied top.leftColumn top.rightColumn,
        { stored with
          leftColumn := some top.leftColumn
          rightColumn := some top.rightColumn })
    else (.stored ranked.length, stored)

/-- Take the answer to a request into the join. -/
def mergeAnswer (join : Join) (request : SuggestionRequest)
    (answer : Except Error (List RelationshipSuggestion)) (settings : SuggestionSettings) :
    SuggestionOutcome × Join :=
  if join.endpoints? ≠ some (request.leftTable, request.rightTable) then (.stale, join)
  else
    match answer with
    | .error error => (.unavailable error.message, { join with suggestions := [] })
    | .ok suggestions =>
      join.withSuggestions settings.autoApply
        (RelationshipSuggestion.ranked settings.minConfidence suggestions)

end Join

namespace Query

/-- A request for suggestions about a join, once both its tables are chosen. -/
def beginSuggestion (query : Query) (id : JoinId) (source : String) :
    Except Error (Option SuggestionRequest) :=
  match query.requireJoin id with
  | .error error => .error error
  | .ok join =>
    match join.endpoints? with
    | none => .ok none
    | some (left, right) =>
      if left = right then .error .selfJoin
      else
        match query.requireTable left, query.requireTable right with
        | .error error, _ => .error error
        | .ok _, .error error => .error error
        | .ok leftTable, .ok rightTable =>
          .ok (some
            { joinId := id, leftTable := left, rightTable := right, source,
              leftName := leftTable.name, rightName := rightTable.name })

/-- Take the answer to a request into the query. -/
def applySuggestions (query : Query) (request : SuggestionRequest)
    (answer : Except Error (List RelationshipSuggestion)) (settings : SuggestionSettings) :
    SuggestionOutcome × Query :=
  match editFirst (fun join => join.id = request.joinId) ()
      (fun join => .ok (join.mergeAnswer request answer settings)) query.joins with
  | .error () => (.joinRemoved, query)
  | .ok (outcome, joins) => (outcome, { query with joins })

end Query

end QueryComposer
