import Turnstile.Event.Line

/-!
# Log filters

A filter is a list of directives, each with a threshold for the events of one
part of the program, for those that have some field, or for those of some
requests. Of the directives for parts of the program the most specific one that
covers an event decides alone; one for requests lets through what it covers
whatever the others say.
-/

namespace Turnstile

/-- How urgent an event must be to pass. -/
inductive Threshold where
  /-- Nothing passes. -/
  | off
  /-- Events of this level and of more urgent ones pass. -/
  | upTo (level : Level)
  deriving DecidableEq, Repr

/-- Whether events of a level pass. -/
def Threshold.passes (threshold : Threshold) (level : Level) : Bool :=
  match threshold with
  | off => false
  | upTo least => level.rank ≤ least.rank

/-- A field that must be there, and the text it must have if that matters. -/
structure FieldPattern where
  name : String
  value : Option String := none
  deriving DecidableEq, Repr

/-- A directive; what it leaves out covers everything. -/
structure Directive where
  /-- How the name of the part of the program starts. -/
  target : Option String := none
  /-- The name of the span. -/
  span : Option String := none
  field : Option FieldPattern := none
  threshold : Threshold := .upTo .trace
  deriving DecidableEq, Repr

namespace Directive

/-- Whether the directive is about the spans that events belong to. -/
def isScoped (directive : Directive) : Bool :=
  directive.span.isSome || directive.field.isSome

/-- Whether the directive can be matched with an event itself. -/
def isStatic (directive : Directive) : Bool :=
  directive.span.isNone && directive.field.all fun field => field.value.isNone

/-- Whether the directive covers a part of the program. -/
def coversTarget (directive : Directive) (target : String) : Bool :=
  directive.target.all fun start => start.toList.isPrefixOf target.toList

/-- Whether the directive covers an event. Its wording counts as a field. -/
def coversEvent (directive : Directive) (event : Event) : Bool :=
  directive.coversTarget event.target &&
    directive.field.all fun field => ("message" :: event.fieldNames).contains field.name

/-- Whether the directive is about spans like this one. -/
def coversSpan (directive : Directive) (span : Span) : Bool :=
  directive.coversTarget Span.target && directive.span.all (· == Span.name) &&
    directive.field.all fun field => (span.fields.map Prod.fst).contains field.name

/-- Whether the directive covers the events of a span. -/
def matchesSpan (directive : Directive) (span : Span) : Bool :=
  directive.coversSpan span &&
    directive.field.all fun field =>
      field.value.all fun value => span.fields.contains (field.name, value)

/-- The length of the target, none being shorter than any. -/
def reach (directive : Directive) : Nat :=
  match directive.target with
  | some target => target.length + 1
  | none => 0

/-- Whether a directive is at least as specific as another: it names a longer
target or, of two as long, a field where the other names none or an earlier one. -/
def isAsSpecificAs (directive other : Directive) : Bool :=
  other.reach < directive.reach ||
    (directive.reach == other.reach &&
      match directive.field, other.field with
      | _, none => true
      | none, some _ => false
      | some field, some otherField => decide (otherField.name ≤ field.name))

end Directive

/-- A filter of events. -/
structure LogFilter where
  directives : List Directive
  deriving DecidableEq, Repr

namespace LogFilter

/-- The filter of some directives; with none at all, errors pass. -/
def ofDirectives (directives : List Directive) : LogFilter :=
  if directives.isEmpty then ⟨[{ threshold := .upTo .error }]⟩ else ⟨directives⟩

/-- The last of the most specific directives. -/
def mostSpecific? (directives : List Directive) : Option Directive :=
  directives.foldl
    (fun best directive =>
      match best with
      | none => some directive
      | some best => some (if directive.isAsSpecificAs best then directive else best))
    none

/-- Whether the most specific of the directives lets a level through. -/
def passesAny (directives : List Directive) (level : Level) : Bool :=
  (mostSpecific? directives).any fun directive => directive.threshold.passes level

/-- Whether anything of a level can pass. -/
def isOpenTo (filter : LogFilter) (level : Level) : Bool :=
  filter.directives.any fun directive =>
    directive.threshold.passes level || directive.field.any fun field => field.value.isSome

/-- Whether a span is shown in the lines of its events. -/
def showsSpan (filter : LogFilter) (span : Span) : Bool :=
  filter.isOpenTo Span.level &&
    ((filter.directives.any fun directive => directive.isScoped && directive.coversSpan span) ||
      passesAny
        (filter.directives.filter fun directive =>
          directive.isStatic && directive.coversTarget Span.target)
        Span.level)

/-- The span, if it is shown. -/
def shownSpan? (filter : LogFilter) (span : Option Span) : Option Span :=
  span.filter filter.showsSpan

/-- Whether an event of some span passes. -/
def passes (filter : LogFilter) (span : Option Span) (event : Event) : Bool :=
  passesAny
      (filter.directives.filter fun directive => directive.isStatic && directive.coversEvent event)
      event.level ||
    (filter.shownSpan? span).any fun span =>
      filter.directives.any fun directive =>
        directive.isScoped && directive.matchesSpan span && directive.threshold.passes event.level

/-- The lines of the events that pass. -/
def lines (filter : LogFilter) (complaints : Complaints) (span : Option Span)
    (events : List Event) : List String :=
  (events.filter (filter.passes span)).map (Event.line complaints (filter.shownSpan? span))

end LogFilter

end Turnstile
