/-
Module: ServiceLifecycle.Logging.Filter
Purpose: Which log messages and spans pass.
Main exports: Subject, Filter, Filter.add, Filter.ofDirectives, Filter.admits
-/
import ServiceLifecycle.Logging.Directive

namespace ServiceLifecycle

/-!
Of the directives about a message the most specific one decides: the one with the
longest target, and among those the one with the most fields.  A directive about a span
does not decide on messages, since nothing is logged inside of a span here; it brings
out the span itself, unless no directive reaches down to the level of the span.
-/

/-- What a filter decides on: a message, or a span if it has a name. -/
structure Subject where
  target : String
  level : Level
  /-- The names of the fields. -/
  fields : List String := []
  span : Option String := none
deriving Repr, Inhabited, DecidableEq

namespace Directive

/-- The names of the fields. -/
def fieldNames (directive : Directive) : List String :=
  directive.fields.map FieldTest.name

/-- The directive tests the value of a field. -/
def testsValues (directive : Directive) : Bool :=
  directive.fields.any fun field => field.value.isSome

/-- The directive is about spans: it has the name of one, or fields. -/
def isAboutSpans (directive : Directive) : Bool :=
  directive.span.isSome || !directive.fields.isEmpty

/-- The directive can decide by itself: what it asks for is known in advance. -/
def isStanding (directive : Directive) : Bool :=
  directive.span.isNone && !directive.testsValues

/-- The target of the directive begins that of the subject. -/
def covers (directive : Directive) (subject : Subject) : Bool :=
  directive.target.all fun stem => stem.toList.isPrefixOf subject.target.toList

/-- The subject has all fields of the directive. -/
def hasFields (directive : Directive) (subject : Subject) : Bool :=
  directive.fieldNames.all (· ∈ subject.fields)

/-- A standing directive decides on the subject.  The fields of spans do not matter. -/
def decidesOn (directive : Directive) (subject : Subject) : Bool :=
  directive.covers subject && (subject.span.isSome || directive.hasFields subject)

/-- A directive about spans brings out the subject. -/
def bringsOut (directive : Directive) (subject : Subject) : Bool :=
  subject.span.isSome && directive.covers subject &&
    (directive.span.isNone || directive.span == subject.span) && directive.hasFields subject

/-- How specific the target of a directive is: the longer, the more. -/
def reach (directive : Directive) : Nat :=
  match directive.target with
  | none => 0
  | some stem => stem.length + 1

/-- Another directive is more specific. -/
def isLessSpecific (directive other : Directive) : Bool :=
  if directive.reach != other.reach then
    directive.reach < other.reach
  else if directive.fields.length != other.fields.length then
    directive.fields.length < other.fields.length
  else
    directive.fieldNames < other.fieldNames

/-- Two directives are about the same, so that the later one counts. -/
def sameScope (one other : Directive) : Bool :=
  one.target == other.target && one.fieldNames == other.fieldNames

end Directive

/-- The directives of a filter. -/
structure Filter where
  /-- The standing directives, of which no two have the same scope. -/
  standing : List Directive := []
  /-- The directives about spans. -/
  spanwise : List Directive := []
  /-- The finest threshold of any directive that was added. -/
  finest : Threshold := none
deriving Repr, Inhabited, DecidableEq

namespace Filter

/-- Add a standing directive, in place of one with the same scope. -/
def addStanding (filter : Filter) (directive : Directive) : Filter :=
  { filter with
    standing := (filter.standing.filter fun other => !other.sameScope directive) ++ [directive]
    finest := filter.finest.finer directive.threshold }

/-- Add a directive about spans. -/
def addSpanwise (filter : Filter) (directive : Directive) : Filter :=
  { filter with
    spanwise := filter.spanwise ++ [directive]
    finest := filter.finest.finer directive.threshold }

/-- Add a directive to a filter. -/
def add (filter : Filter) (directive : Directive) : Filter :=
  if directive.isStanding then filter.addStanding directive else filter.addSpanwise directive

/-- A filter of the given directives; without any, nothing passes.  A directive that asks
for fields counts on both sides. -/
def ofDirectives (directives : List Directive) : Filter :=
  let spanwise := (directives.filter (·.isAboutSpans)).foldl addSpanwise {}
  (directives.filter (·.isStanding)).foldl addStanding spanwise

/-- The more specific of two directives. -/
def moreSpecific (one other : Directive) : Directive :=
  if one.isLessSpecific other then other else one

/-- The directive that decides on the subject. -/
def decisive? (filter : Filter) (subject : Subject) : Option Directive :=
  match filter.standing.filter (·.decidesOn subject) with
  | [] => none
  | directive :: rest => some (rest.foldl moreSpecific directive)

/-- The level is one that the filter looks at.  As soon as the values of fields matter,
it looks at all. -/
def looksAt (filter : Filter) (level : Level) : Bool :=
  filter.finest.admits level || filter.spanwise.any (·.testsValues)

/-- The message or span passes. -/
def admits (filter : Filter) (subject : Subject) : Bool :=
  ((filter.decisive? subject).any fun directive => directive.threshold.admits subject.level) ||
    (filter.looksAt subject.level && filter.spanwise.any (·.bringsOut subject))

end Filter

end ServiceLifecycle
