import TunnelKeeper.Text.Blank

/-!
Which log lines are shown. A filter is a list of directives between commas, such as
`warn,relay=debug`: a level for all targets or for those that start with a name. Of the directives
for a target the one with the longest name counts, of several with one name the last. Directives
that cannot be read are passed over, and a filter without any shows errors only.
-/

namespace TunnelKeeper.Logging

inductive Level where
  | error
  | warn
  | info
  | debug
  | trace
  deriving DecidableEq, Repr

namespace Level

def all : List Level := [error, warn, info, debug, trace]

def name : Level → String
  | error => "error"
  | warn => "warn"
  | info => "info"
  | debug => "debug"
  | trace => "trace"

/-- How much a limit must let through to show the level. -/
def rank : Level → Nat
  | error => 1
  | warn => 2
  | info => 3
  | debug => 4
  | trace => 5

end Level

/-- One part of a filter: lines up to the rank `limit` are shown, for all targets or for those that
start with `target`. A narrowed directive counts only inside a span, or for lines with certain
fields. -/
structure Directive where
  target : Option String := none
  limit : Nat := 5
  narrowed : Bool := false
  deriving DecidableEq, Repr

namespace Directive

/-- A decimal number, perhaps with a plus sign. -/
def number? (cs : List Char) : Option Nat :=
  let digits := if cs.head? = some '+' then cs.drop 1 else cs
  if digits ≠ [] ∧ digits.all Char.isDigit then
    some (digits.foldl (fun n c => n * 10 + (c.toNat - 48)) 0)
  else none

/-- A limit by the name of a level in any case, or by its rank. -/
def limit? (cs : List Char) : Option Nat :=
  match number? cs with
  | some n => if n ≤ 5 then some n else none
  | none =>
    let lower := String.ofList (cs.map Char.toLower)
    if lower = "off" then some 0
    else (Level.all.find? (·.name = lower)).map Level.rank

/-- How far reading a directive has come. The numbers are places in it. -/
inductive Stage where
  | start
  | levelOrTarget
  | span (first : Nat)
  | field (first : Nat)
  | fields
  | target
  | level (first : Nat)

/-- A character that a directive may start with. -/
def isOpening (c : Char) : Bool :=
  c = '-' || c = ':' || c = '_' || c.isAlphanum || 0x80 ≤ c.toNat

/-- Reads a character at a place. Parts are cut from the whole directive `all`, which may have
blanks around the part that is read: then the places are off by as many characters. -/
def step (all : List Char) (place : Nat) (c : Char) :
    Stage × Directive → Option (Stage × Directive)
  | (.start, d) =>
    if c = '[' then some (.span (place + 1), d)
    else if isOpening c then some (.levelOrTarget, d)
    else none
  | (.levelOrTarget, d) =>
    let named := { d with target := some (String.ofList (all.take place)) }
    if c = '=' then some (.level (place + 1), named)
    else if c = '[' then some (.span (place + 1), named)
    else some (.levelOrTarget, d)
  | (.span first, d) =>
    if c = ']' then some (.target, { d with narrowed := true })
    else if c = '\x7b' then
      some (.field (place + 1), { d with narrowed := d.narrowed || first < place })
    else some (.span first, d)
  | (.field first, d) =>
    if c = '\x7d' then
      if first < place then some (.fields, { d with narrowed := true }) else none
    else some (.field first, d)
  | (.fields, d) => if c = ']' then some (.target, d) else none
  | (.target, d) => if c = '=' then some (.level (place + 1), d) else none
  | (.level first, d) => some (.level first, d)

/-- Reads characters from a place on. -/
def scan (all : List Char) : Nat → List Char → Stage × Directive → Option (Stage × Directive)
  | _, [], state => some state
  | place, c :: cs, state => do scan all (place + 1) cs (← step all place c state)

/-- The directive of a text, if it is one. A name without a level lets everything through. -/
def parse? (all : List Char) : Option Directive := do
  match ← scan all 0 (dropTrailingBlanks (skipBlanks all)) (.start, {}) with
  | (.levelOrTarget, d) =>
    match limit? all with
    | some limit => return { d with limit := limit }
    | none => return { d with target := some (String.ofList all) }
  | (.level first, d) =>
    match all.drop first with
    | [] => return d
    | cs => return { d with limit := ← limit? cs }
  | (_, d) => return d

def targetLength (d : Directive) : Nat := (d.target.map (·.utf8ByteSize + 1)).getD 0

/-- The directive is about the lines of a target. -/
def appliesTo (d : Directive) (target : String) : Bool :=
  !d.narrowed && match d.target with
    | none => true
    | some name => name.toList.isPrefixOf target.toList

end Directive

/-- The parts of a filter. -/
abbrev Filter := List Directive

namespace Filter

def parse (s : String) : Filter :=
  match ((s.toList.splitOn ',').filter (· ≠ [])).filterMap Directive.parse? with
  | [] => [{ limit := Level.error.rank }]
  | directives => directives

/-- The directive that counts for a target. -/
def directiveFor (filter : Filter) (target : String) : Option Directive :=
  (filter.filter (·.appliesTo target)).foldl
    (fun best d => match best with
      | none => some d
      | some b => if b.targetLength ≤ d.targetLength then some d else some b)
    none

/-- Lines of the target and the level are shown. -/
def shows (filter : Filter) (target : String) (level : Level) : Bool :=
  match filter.directiveFor target with
  | some d => level.rank ≤ d.limit
  | none => false

end Filter

/-- The log of a process: the filter that was installed first. -/
structure Log where
  filter : Option Filter := none

/-- Installs a filter, unless there is one: that of the environment if it gives one, else that of
the program. Whether it was installed. -/
def Log.init (log : Log) (level : String) (environment : Option String) : Bool × Log :=
  match log.filter with
  | some _ => (false, log)
  | none => (true, ⟨some (.parse (environment.getD level))⟩)

end TunnelKeeper.Logging
