import LoxLexer.Log.Directive

/-!
# Log filters

A filter is a list of directives with different selectors. A record is let through in one of two
ways. Of the directives for single records that have its target, and a field of it or none, one
decides: the one with the longest target, then one with a field before one without. And a directive
for spans lets all records of a scan that it selects through up to its threshold, whatever else is
said about them.

A scan is told with its records if a directive selects it, values apart, or if the directive that
decides about its target, fields apart, lets its level through.
-/
namespace LoxLexer

structure Filter where
  directives : List Directive
  deriving DecidableEq, Repr

namespace Filter

/-- Of directives with one selector the last counts. -/
def ofDirectives (ds : List Directive) : Filter :=
  ⟨ds.foldl (fun kept d => kept.filter (·.selector ≠ d.selector) ++ [d]) []⟩

def upTo (level : Level) : Filter := ⟨[⟨{}, level.rank⟩]⟩

/-- Reads directives between commas. Nothing but empty parts lets errors through. -/
def ofText? (text : String) : Option Filter :=
  match (text.toList.splitOn ',').filter (· ≠ []) with
  | [] => some (upTo .error)
  | parts => (parts.mapM Directive.ofText?).map ofDirectives

/-- The threshold of the directive that comes before the others. -/
def deciding (ds : List Directive) : Nat :=
  match ds.foldl (fun best d => if best.any (fun b => b.selector.outranks d.selector) then best
      else some d) none with
  | some d => d.threshold
  | none => 0

/-- The threshold for single records of a target with these fields. -/
def recordThreshold (f : Filter) (target : String) (fields : List String) : Nat :=
  deciding (f.directives.filter fun d =>
    d.selector.isPlain && d.selector.hasTarget target && d.selector.hasField fields)

/-- The threshold for a span as such. -/
def spanThreshold (f : Filter) (target : String) : Nat :=
  deciding (f.directives.filter fun d => d.selector.isPlain && d.selector.hasTarget target)

/-- The directives that select scans, whatever the values of their fields. -/
def scanDirectives (f : Filter) : List Directive :=
  f.directives.filter fun d =>
    d.selector.selectsSpans && d.selector.hasTarget ScanSpan.target &&
      d.selector.hasField ScanSpan.fields && d.selector.span.all (· = ScanSpan.name.toList)

def scanThreshold (f : Filter) (scan : ScanSpan) : Nat :=
  let fits (d : Directive) : Bool :=
    d.selector.field.all fun t => t.value.all (· = .number scan.bytes)
  ((f.scanDirectives.filter fits).map Directive.threshold).foldl max 0

def allows (f : Filter) (r : LogRecord) : Bool :=
  r.level.rank ≤ f.recordThreshold r.target r.fields ||
    r.scan?.any fun scan => r.level.rank ≤ f.scanThreshold scan

/-- Whether the scan is told with its records. -/
def showsScan (f : Filter) : Bool :=
  f.scanDirectives ≠ [] || ScanSpan.level.rank ≤ f.spanThreshold ScanSpan.target

def selection (f : Filter) : Selection := fun r => if f.allows r then some f.showsScan else none

end Filter
end LoxLexer
