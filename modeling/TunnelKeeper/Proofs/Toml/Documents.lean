import TunnelKeeper.Proofs.Toml.Values
import TunnelKeeper.Toml.Writer

/-!
A document that was written for the data of a record is read as one table: each scalar under its
key, and behind them the tables of the records inside.
-/

namespace TunnelKeeper.Toml

open Record (Scalar Shape Field FieldShape Datum RecordShape)

/-! ### Results -/

lemma bind_eq_ok {ε α β : Type} {x : Except ε α} {f : α → Except ε β} {b : β} :
    x >>= f = .ok b ↔ ∃ a, x = .ok a ∧ f a = .ok b := by
  cases x with
  | error e => exact ⟨nofun, nofun⟩
  | ok a => exact ⟨fun ok => ⟨a, rfl, ok⟩, fun ⟨_, eq, ok⟩ => Except.ok.inj eq ▸ ok⟩

lemma map_eq_ok {ε α β : Type} {f : α → β} {x : Except ε α} {b : β} :
    f <$> x = .ok b ↔ ∃ a, x = .ok a ∧ f a = b := by
  cases x with
  | error e => exact ⟨nofun, nofun⟩
  | ok a =>
    refine ⟨fun ok => ⟨a, rfl, Except.ok.inj ok⟩, ?_⟩
    rintro ⟨_, ⟨⟩, rfl⟩
    rfl

/-! ### Keys -/

/-- The key can stand without quotes. -/
def Bare (key : String) : Prop := key.toList ≠ [] ∧ key.toList.all isBareKeyChar

instance (key : String) : Decidable (Bare key) := inferInstanceAs (Decidable (_ ∧ _))

/-- Keys that can all stand in one table. -/
structure Tidy (keys : List String) : Prop where
  bare : ∀ key ∈ keys, Bare key
  distinct : keys.Nodup

lemma Tidy.tail {key : String} {keys : List String} (tidy : Tidy (key :: keys)) : Tidy keys :=
  ⟨(List.forall_mem_cons.1 tidy.bare).2, tidy.distinct.of_cons⟩

lemma Bare.cons {key : String} (bare : Bare key) :
    ∃ c cs, key.toList = c :: cs ∧ isBareKeyChar c := by
  obtain ⟨nonempty, all⟩ := bare
  cases eq : key.toList with
  | nil => exact absurd eq nonempty
  | cons c cs => exact ⟨c, cs, rfl, List.all_eq_true.1 all c (eq ▸ List.mem_cons_self)⟩

lemma isSpace_of_isBareKeyChar {c : Char} (bare : isBareKeyChar c) : isSpace c = false := by
  have blank := ne_of_test bare (show isBareKeyChar ' ' = false from rfl)
  have tab := ne_of_test bare (show isBareKeyChar '\t' = false from rfl)
  simp [isSpace, blank, tab]

lemma takeWhile_bare {cs : List Char} (bare : ∀ c ∈ cs, isBareKeyChar c) {d : Char}
    (stop : isBareKeyChar d = false) (rest : List Char) :
    (cs ++ d :: rest).takeWhile isBareKeyChar = cs ∧
      (cs ++ d :: rest).dropWhile isBareKeyChar = d :: rest := by
  rw [List.takeWhile_append_of_pos bare, List.dropWhile_append_of_pos bare]
  simp [stop]

lemma simpleKey_bare {key : String} (bare : Bare key) {d : Char} (stop : isBareKeyChar d = false)
    (rest : List Char) : simpleKey (key.toList ++ d :: rest) = some (key, d :: rest) := by
  obtain ⟨c, cs, eq, first⟩ := bare.cons
  obtain ⟨taken, left⟩ := takeWhile_bare (List.all_eq_true.1 bare.2) stop rest
  have double := ne_of_test first (show isBareKeyChar '"' = false from rfl)
  have single := ne_of_test first (show isBareKeyChar '\'' = false from rfl)
  have whole : String.ofList (c :: cs) = key := by rw [← eq, String.ofList_toList]
  rw [eq, List.cons_append] at taken left ⊢
  rw [simpleKey, taken, left, ← whole]
  · exact fun _ alike => double (List.cons.inj alike).1
  · exact fun _ alike => single (List.cons.inj alike).1

lemma dottedKey_bare {key : String} (bare : Bare key) {d e : Char} {rest more : List Char}
    (stop : isBareKeyChar d = false) (next : skipSpaces (d :: rest) = e :: more) (dot : e ≠ '.') :
    dottedKey (key.toList ++ d :: rest) = some (([], key), e :: more) := by
  obtain ⟨c, cs, eq, first⟩ := bare.cons
  have front : skipSpaces (key.toList ++ d :: rest) = key.toList ++ d :: rest := by
    rw [eq]
    exact skipSpaces_other (isSpace_of_isBareKeyChar first) _
  have single : keys ((key.toList ++ d :: rest).length + 1) (key.toList ++ d :: rest) =
      some ([key], e :: more) := by
    unfold keys
    rw [front, simpleKey_bare bare stop]
    simp only [Option.bind_eq_bind, Option.bind_some, next]
    split
    · next eq => exact absurd (List.cons.inj eq).1 dot
    · rfl
  unfold dottedKey
  rw [single]
  rfl

/-! ### Lines -/

/-- Reading passes the text and changes the draft to another, if there are rounds enough. -/
def Reads (text : List Char) (draft after : Draft) : Prop :=
  ∀ rounds rest, (text ++ rest).length < rounds → ∃ left, rest.length < left ∧
    documentLines rounds draft (text ++ rest) = documentLines left after rest

lemma Reads.nil (draft : Draft) : Reads [] draft draft :=
  fun rounds _ enough => ⟨rounds, enough, rfl⟩

lemma Reads.append {one two : List Char} {draft middle after : Draft}
    (first : Reads one draft middle) (second : Reads two middle after) :
    Reads (one ++ two) draft after := by
  intro rounds rest enough
  rw [List.append_assoc] at enough ⊢
  obtain ⟨left, enough, eq⟩ := first rounds (two ++ rest) enough
  obtain ⟨left, enough, eq'⟩ := second left rest enough
  exact ⟨left, enough, eq.trans eq'⟩

lemma Reads.line {text : List Char} {draft after : Draft} (nonempty : text ≠ [])
    (read : ∀ rounds rest,
      documentLines (rounds + 1) draft (text ++ rest) = documentLines rounds after rest) :
    Reads text draft after := by
  intro rounds rest enough
  have pos := List.length_pos_iff.2 nonempty
  rw [List.length_append] at enough
  obtain ⟨left, rfl⟩ : ∃ left, rounds = left + 1 := ⟨rounds - 1, by omega⟩
  exact ⟨left, by omega, read left rest⟩

lemma reads_blank (draft : Draft) : Reads ['\n'] draft draft :=
  .line (by simp) fun _ _ => rfl

lemma restOfLine?_newline (rest : List Char) : restOfLine? ('\n' :: rest) = some rest := rfl

lemma documentLines_bare {c : Char} (bare : isBareKeyChar c) (rounds : Nat) (draft : Draft)
    (cs : List Char) : documentLines (rounds + 1) draft (c :: cs) =
      (pairLine draft (c :: cs)).bind fun (after, rest) => documentLines rounds after rest := by
  have other : ∀ d, isBareKeyChar d = false → c ≠ d := fun _ => ne_of_test bare
  have inside : newline? (c :: cs) = none := by
    rw [newline?]
    · exact fun _ eq => absurd (List.cons.inj eq).1 (other '\n' rfl)
    · exact fun _ eq => absurd (List.cons.inj eq).1 (other '\x0d' rfl)
  rw [documentLines, skipSpaces_other (isSpace_of_isBareKeyChar bare)]
  split
  · next eq => cases eq
  · next eq => exact absurd (List.cons.inj eq).1 (other '#' rfl)
  · next eq => exact absurd (List.cons.inj eq).1 (other '[' rfl)
  · rw [inside]
    rfl

lemma reads_pair {key : String} {text : List Char} {v : Value} {draft : Draft} (bare : Bare key)
    (denotes : Denotes text v) (fresh : draft.current.lookup key = none) :
    Reads (key.toList ++ ' ' :: '=' :: ' ' :: (text ++ ['\n'])) draft
      { draft with current := draft.current ++ [(key, v)] } := by
  obtain ⟨c, cs, eq, first⟩ := bare.cons
  refine .line (by simp) fun rounds rest => ?_
  -- the line as `pairLine` sees it, with its end and what follows
  have pair : pairLine draft (key.toList ++ ' ' :: '=' :: ' ' :: (text ++ '\n' :: rest)) =
      some ({ draft with current := draft.current ++ [(key, v)] }, rest) := by
    have named : dottedKey (key.toList ++ ' ' :: '=' :: ' ' :: (text ++ '\n' :: rest)) =
        some (([], key), '=' :: ' ' :: (text ++ '\n' :: rest)) :=
      dottedKey_bare bare rfl rfl (by decide)
    have read : value (depthLimit - 1) (skipSpaces (' ' :: (text ++ '\n' :: rest))) = _ :=
      denotes rest
    simp [pairLine, named, exactly, read, Draft.addPair, Entries.addDotted, Entries.add?, fresh,
      restOfLine?_newline]
  have front : key.toList ++ ' ' :: '=' :: ' ' :: (text ++ ['\n']) ++ rest =
      key.toList ++ ' ' :: '=' :: ' ' :: (text ++ '\n' :: rest) := by simp
  rw [front]
  rw [eq, List.cons_append] at pair ⊢
  rw [documentLines_bare first, pair]
  rfl

lemma Entries.remove_of_lookup {key : String} {entries : Entries}
    (missing : entries.lookup key = none) : entries.remove key = entries := by
  refine List.filter_eq_self.2 fun entry mem => ?_
  have other := List.lookup_eq_none_iff.1 missing entry mem
  exact decide_eq_true fun eq => ((bne_iff_ne).1 other) eq.symm

lemma reads_header {key : String} {draft : Draft} {entries : Entries} (bare : Bare key)
    (closed : draft.close = some entries) (fresh : entries.lookup key = none) :
    Reads ('[' :: (key.toList ++ [']', '\n'])) draft
      { done := entries, place := some (false, [], key), current := [] } := by
  obtain ⟨c, cs, eq, first⟩ := bare.cons
  have single := ne_of_test first (show isBareKeyChar '[' = false from rfl)
  have kept : entries.remove key = entries := Entries.remove_of_lookup fresh
  have opened : draft.openHeader [] key =
      some { done := entries, place := some (false, [], key), current := [] } := by
    simp [Draft.openHeader, closed, Entries.underHeaders, kept, Draft.startOf?, Draft.definable?,
      fresh]
  refine .line (by simp) fun rounds rest => ?_
  have header : headerLine draft (key.toList ++ ']' :: '\n' :: rest) =
      some ({ done := entries, place := some (false, [], key), current := [] }, rest) := by
    have named : dottedKey (key.toList ++ ']' :: '\n' :: rest) =
        some (([], key), ']' :: '\n' :: rest) :=
      dottedKey_bare bare rfl rfl (by decide)
    rw [eq, List.cons_append] at named ⊢
    rw [headerLine]
    · simp [named, exactly, opened, restOfLine?_newline]
    · exact fun _ eq => absurd (List.cons.inj eq).1 single
  have front : '[' :: (key.toList ++ [']', '\n']) ++ rest =
      '[' :: (key.toList ++ ']' :: '\n' :: rest) := by simp
  rw [front, documentLines, skipSpaces_other rfl]
  simp only [header, Option.bind_eq_bind, Option.bind_some]

/-! ### Scalars -/

/-- The values that are there, under their keys. -/
def present : List String → List (Option Value) → Entries
  | key :: keys, v :: vs => v.toList.map (key, ·) ++ present keys vs
  | _, _ => []

lemma mem_present {keys : List String} {vs : List (Option Value)} {key : String} {v : Value} :
    (key, v) ∈ present keys vs ↔ (key, some v) ∈ keys.zip vs := by
  induction keys generalizing vs with
  | nil => simp [present]
  | cons k keys ih =>
    cases vs with
    | nil => simp [present]
    | cons w vs => cases w <;> simp [present, ih, Prod.ext_iff]

lemma lookup_present_of_not_mem {keys : List String} {key : String} (other : key ∉ keys)
    (vs : List (Option Value)) : (present keys vs).lookup key = none := by
  refine List.lookup_eq_none_iff.2 fun entry mem => ?_
  have among := (List.of_mem_zip (mem_present.1 mem)).1
  exact bne_iff_ne.2 fun eq => other (eq ▸ among)

lemma lookup_single_of_ne {key k : String} (apart : key ≠ k) (v : Option Value) :
    (v.toList.map (k, ·)).lookup key = none := by
  refine List.lookup_eq_none_iff.2 fun entry mem => ?_
  obtain ⟨_, -, rfl⟩ := List.mem_map.1 mem
  exact bne_iff_ne.2 apart

/-- Under distinct keys every value is found again. -/
lemma lookup_present {keys : List String} (distinct : keys.Nodup) {vs : List (Option Value)}
    {key : String} {v : Option Value} (mem : (key, v) ∈ keys.zip vs) :
    (present keys vs).lookup key = v := by
  induction keys generalizing vs with
  | nil => cases mem
  | cons k keys ih =>
    obtain ⟨other, distinct⟩ := List.nodup_cons.1 distinct
    cases vs with
    | nil => cases mem
    | cons w vs =>
      rw [present, List.lookup_append]
      rcases List.mem_cons.1 mem with eq | mem
      · obtain ⟨rfl, rfl⟩ := Prod.mk.inj eq
        rw [lookup_present_of_not_mem other]
        cases v <;> simp
      · have among := (List.of_mem_zip mem).1
        have apart : key ≠ k := fun eq => other (eq ▸ among)
        rw [ih distinct mem]
        rw [lookup_single_of_ne apart, Option.none_or]

/-- The value that a scalar is written as; none is not written at all. -/
def valueOf? : Scalar → Option Value
  | .none => none
  | .text s => some (.text s)
  | .integer i => some (.integer i)
  | .timestamp t => some (.text t.text)

/-- Writing checks whole numbers against the upper end of 64 bits with a sign only. These are not
below the lower end. -/
def NotBelow : Scalar → Prop
  | .integer i => -Int.pow 2 63 ≤ i
  | _ => True

lemma denotes_scalarText {s : Scalar} {written : Option String} (bounded : NotBelow s)
    (ok : scalarText? s = .ok written) :
    written = none ∧ valueOf? s = none ∨
      ∃ text v, written = some text ∧ valueOf? s = some v ∧ Denotes text.toList v := by
  have quoted (text : String) :
      Denotes (String.ofList (quoteChars text.toList)).toList (.text text) := by
    have denotes := denotes_quoteChars text.toList
    rwa [String.ofList_toList, ← @String.toList_ofList (quoteChars text.toList)] at denotes
  cases s with
  | none => exact .inl ⟨(Except.ok.inj ok).symm, rfl⟩
  | text text => exact .inr ⟨_, _, (Except.ok.inj ok).symm, rfl, quoted text⟩
  | timestamp t => exact .inr ⟨_, _, (Except.ok.inj ok).symm, rfl, quoted t.text⟩
  | integer i =>
    rw [scalarText?] at ok
    split at ok
    · next most => exact .inr ⟨_, _, (Except.ok.inj ok).symm, rfl, denotes_integer bounded most⟩
    · cases ok

lemma reads_line {key text : String} {s : Scalar} {draft : Draft} (bare : Bare key)
    (bounded : NotBelow s) (fresh : draft.current.lookup key = none)
    (written : line key s = .ok text) : Reads text.toList draft
      { draft with current := draft.current ++ (valueOf? s).toList.map (key, ·) } := by
  obtain ⟨value, ok, written⟩ := bind_eq_ok.1 written
  rcases denotes_scalarText bounded ok with ⟨rfl, none⟩ | ⟨quoted, v, rfl, some, denotes⟩
  · obtain rfl := Except.ok.inj written
    rw [none]
    simpa using Reads.nil draft
  · obtain rfl := Except.ok.inj written
    rw [some]
    simpa using reads_pair bare denotes fresh

lemma reads_lines {keys : List String} {values : List Scalar} {text : String} {draft : Draft}
    (tidy : Tidy keys) (bounded : ∀ s ∈ values, NotBelow s)
    (fresh : ∀ key ∈ keys, draft.current.lookup key = none)
    (written : lines keys values = .ok text) :
    Reads text.toList draft
      { draft with current := draft.current ++ present keys (values.map valueOf?) } := by
  induction keys generalizing values text draft with
  | nil =>
    obtain rfl := Except.ok.inj written
    simpa [present] using Reads.nil draft
  | cons key keys ih =>
    cases values with
    | nil =>
      obtain rfl := Except.ok.inj written
      simpa [present] using Reads.nil draft
    | cons s values =>
      obtain ⟨other, -⟩ := List.nodup_cons.1 tidy.distinct
      obtain ⟨front, one, written⟩ := bind_eq_ok.1 written
      obtain ⟨back, others, written⟩ := bind_eq_ok.1 written
      obtain rfl := Except.ok.inj written
      obtain ⟨boundedHere, bounded⟩ := List.forall_mem_cons.1 bounded
      obtain ⟨freshHere, fresh⟩ := List.forall_mem_cons.1 fresh
      have here := reads_line (tidy.bare key List.mem_cons_self) boundedHere freshHere one
      rw [String.toList_append, List.map_cons, present, ← List.append_assoc]
      refine here.append (ih tidy.tail bounded (fun k mem => ?_) others)
      have apart : k ≠ key := fun eq => other (eq ▸ mem)
      rw [List.lookup_append, fresh k mem, Option.none_or]
      exact lookup_single_of_ne apart _

/-- A field as a scalar, where a record counts as none. -/
def scalarOf : Datum → Scalar
  | .scalar s => s
  | .record _ => .none

/-- The lines of the scalars among the fields are the lines of a record that has no more. -/
lemma scalarLines_eq_lines (keys : List String) (data : List Datum) :
    scalarLines keys data = lines keys (data.map scalarOf) := by
  induction keys generalizing data with
  | nil => rfl
  | cons key keys ih =>
    cases data with
    | nil => rfl
    | cons datum data =>
      cases datum with
      | scalar s => rw [scalarLines, List.map_cons, lines, ih, scalarOf]
      | record values =>
        have nothing : line key .none = .ok "" := rfl
        rw [scalarLines, List.map_cons, lines, ih, scalarOf, nothing]
        cases lines keys (data.map scalarOf) with
        | error fault => rfl
        | ok text => exact congrArg Except.ok String.empty_append.symm

/-! ### Tables -/

/-- The key and the lines of a field that holds a record. -/
def tableLine (pair : Field FieldShape Datum × Datum) :
    Except EncodeFault (List (String × String)) :=
  match pair.1.shape, pair.2 with
  | .record inner, .record values => do
    return [(pair.1.key, ← lines (inner.fields.map (·.key)) values)]
  | _, _ => return []

lemma tableLines_eq (shape : RecordShape) (data : List Datum) :
    tableLines shape data = List.flatten <$> (shape.fields.zip data).mapM tableLine := rfl

/-- The table that a field is written as, if it holds a record. -/
def tableOf? (pair : Field FieldShape Datum × Datum) : Option Value :=
  match pair.1.shape, pair.2 with
  | .record inner, .record values =>
    some (.table .header (present (inner.fields.map (·.key)) (values.map valueOf?)))
  | _, _ => none

/-- The keys of a record can stand in one table, and so can those of each record inside. -/
structure TidyShape (shape : RecordShape) : Prop where
  keys : Tidy (shape.fields.map (·.key))
  inner : ∀ field ∈ shape.fields, ∀ record, field.shape = .record record →
    Tidy (record.fields.map (·.key))

/-- The scalars of a field. -/
def scalarsOf : Datum → List Scalar
  | .scalar s => [s]
  | .record values => values

/-- A table under its header goes behind what was read before. -/
lemma reads_withTable {before key text : String} {start draft : Draft} {entries inner : Entries}
    (read : Reads before.toList start draft) (closed : draft.close = some entries) (bare : Bare key)
    (fresh : entries.lookup key = none)
    (inside : ∀ draft, draft.current = [] →
      Reads text.toList draft { draft with current := draft.current ++ inner }) :
    ∃ after, Reads (withTable before key text).toList start after ∧
      after.close = some (entries ++ [(key, .table .header inner)]) := by
  refine ⟨{ done := entries, place := some (false, [], key), current := inner }, ?_, ?_⟩
  · have table := (reads_header bare closed fresh).append (inside _ rfl)
    have apart : Reads (if before = "" then "" else "\n").toList draft draft := by
      split
      · exact Reads.nil draft
      · exact reads_blank draft
    have whole := (read.append apart).append table
    simpa [withTable] using whole
  · simp [Draft.close, Entries.underHeaders, Entries.add?, fresh]

/-- Tables under their headers, one behind the other. -/
def withTables (before : String) (tables : List (String × String)) : String :=
  tables.foldl (fun before (key, text) => withTable before key text) before

lemma reads_tableLine {pair : Field FieldShape Datum × Datum} {tables : List (String × String)}
    {before : String} {start draft : Draft} {entries : Entries} (bare : Bare pair.1.key)
    (inner : ∀ record, pair.1.shape = .record record → Tidy (record.fields.map (·.key)))
    (bounded : ∀ s ∈ scalarsOf pair.2, NotBelow s)
    (fresh : tableOf? pair ≠ none → entries.lookup pair.1.key = none)
    (written : tableLine pair = .ok tables)
    (read : Reads before.toList start draft) (closed : draft.close = some entries) :
    ∃ after, Reads (withTables before tables).toList start after ∧
      after.close = some (entries ++ (tableOf? pair).toList.map (pair.1.key, ·)) := by
  have unchanged (none : tableOf? pair = none) (nothing : tables = []) :
      ∃ after, Reads (withTables before tables).toList start after ∧
        after.close = some (entries ++ (tableOf? pair).toList.map (pair.1.key, ·)) := by
    rw [none, nothing]
    exact ⟨draft, read, by simpa using closed⟩
  obtain ⟨⟨key, shape, fallback⟩, datum⟩ := pair
  cases shape with
  | scalar shape =>
    refine unchanged rfl ?_
    cases datum with
    | scalar s => exact (Except.ok.inj written).symm
    | record values => exact (Except.ok.inj written).symm
  | record record =>
    cases datum with
    | scalar s => exact unchanged rfl (Except.ok.inj written).symm
    | record values =>
      obtain ⟨text, ok, written⟩ := bind_eq_ok.1 written
      obtain rfl := Except.ok.inj written
      refine reads_withTable read closed bare (fresh nofun) fun table empty => ?_
      exact reads_lines (inner record rfl) bounded (fun k _ => by rw [empty]; rfl) ok

/-- The tables of the fields that hold records stand behind what was read before, in their order. -/
lemma reads_tables {pairs : List (Field FieldShape Datum × Datum)}
    {tables : List (List (String × String))} {before : String} {start draft : Draft}
    {entries : Entries} (keys : Tidy (pairs.map (·.1.key)))
    (inner : ∀ pair ∈ pairs, ∀ record, pair.1.shape = .record record →
      Tidy (record.fields.map (·.key)))
    (bounded : ∀ pair ∈ pairs, ∀ s ∈ scalarsOf pair.2, NotBelow s)
    (fresh : ∀ pair ∈ pairs, tableOf? pair ≠ none → entries.lookup pair.1.key = none)
    (written : pairs.mapM tableLine = .ok tables)
    (read : Reads before.toList start draft) (closed : draft.close = some entries) :
    ∃ after, Reads (withTables before tables.flatten).toList start after ∧
      after.close = some (entries ++ present (pairs.map (·.1.key)) (pairs.map tableOf?)) := by
  induction pairs generalizing tables before draft entries with
  | nil =>
    obtain rfl := Except.ok.inj written
    exact ⟨draft, read, by simpa [present] using closed⟩
  | cons pair pairs ih =>
    rw [List.mapM_cons] at written
    obtain ⟨table, one, written⟩ := bind_eq_ok.1 written
    obtain ⟨rest, others, written⟩ := bind_eq_ok.1 written
    obtain rfl := Except.ok.inj written
    obtain ⟨other, -⟩ := List.nodup_cons.1 keys.distinct
    obtain ⟨innerHere, inner⟩ := List.forall_mem_cons.1 inner
    obtain ⟨boundedHere, bounded⟩ := List.forall_mem_cons.1 bounded
    obtain ⟨freshHere, fresh⟩ := List.forall_mem_cons.1 fresh
    obtain ⟨middle, first, closed⟩ := reads_tableLine (keys.bare _ List.mem_cons_self) innerHere
      boundedHere freshHere one read closed
    -- the key of this table is none of those that follow
    have fresh : ∀ later ∈ pairs, tableOf? later ≠ none →
        (entries ++ (tableOf? pair).toList.map (pair.1.key, ·)).lookup later.1.key = none := by
      intro later mem record
      have apart : later.1.key ≠ pair.1.key :=
        fun eq => other (List.mem_map.2 ⟨later, mem, eq⟩)
      rw [List.lookup_append, fresh later mem record, Option.none_or, lookup_single_of_ne apart]
    obtain ⟨after, all, done⟩ := ih keys.tail inner bounded fresh others first closed
    refine ⟨after, ?_, ?_⟩
    · rw [List.flatten_cons, withTables, List.foldl_append]
      exact all
    · rw [done, List.map_cons, List.map_cons, present, List.append_assoc]

/-! ### Documents -/

/-- The table that the data of a record is written as. -/
def entriesOf (shape : RecordShape) (data : List Datum) : Entries :=
  present (shape.fields.map (·.key)) (data.map fun datum => valueOf? (scalarOf datum)) ++
    present (shape.fields.map (·.key)) ((shape.fields.zip data).map tableOf?)

lemma documentLines_nil {rounds : Nat} (enough : 0 < rounds) (draft : Draft) :
    documentLines rounds draft [] = some draft := by
  obtain ⟨left, rfl⟩ : ∃ left, rounds = left + 1 := ⟨rounds - 1, by omega⟩
  rfl

lemma documentLines_mark (rounds : Nat) (draft : Draft) (cs : List Char) :
    documentLines rounds draft ('\ufeff' :: cs) = none := by
  have unnamed : simpleKey (skipSpaces ('\ufeff' :: cs)) = none := by
    rw [skipSpaces_other rfl]
    simp [simpleKey, show isBareKeyChar '\ufeff' = false from rfl]
  have unkeyed : dottedKey ('\ufeff' :: cs) = none := by
    unfold dottedKey keys
    rw [unnamed]
    rfl
  cases rounds with
  | zero => rfl
  | succ rounds =>
    rw [documentLines, skipSpaces_other rfl]
    simp [newline?, pairLine, unkeyed]

lemma document_of_reads {text : String} {draft : Draft} {entries : Entries}
    (read : Reads text.toList {} draft) (closed : draft.close = some entries) :
    document text = some entries := by
  obtain ⟨left, enough, ended⟩ := read (text.toList.length + 1) [] (by simp)
  rw [List.append_nil, documentLines_nil (by omega)] at ended
  have unmarked : dropMark text.toList = text.toList := by
    unfold dropMark
    split
    · next mark =>
      rw [mark, documentLines_mark] at ended
      cases ended
    · rfl
  simp [document, unmarked, ended, closed]

lemma notBelow_scalarOf {datum : Datum} (bounded : ∀ s ∈ scalarsOf datum, NotBelow s) :
    NotBelow (scalarOf datum) := by
  cases datum with
  | scalar s => exact bounded s (List.mem_singleton_self s)
  | record values => trivial

/-- A field is written as a scalar or as a table, not as both. -/
lemma scalarOf_of_table {pair : Field FieldShape Datum × Datum} (table : tableOf? pair ≠ none) :
    valueOf? (scalarOf pair.2) = none := by
  obtain ⟨⟨key, shape, fallback⟩, datum⟩ := pair
  cases datum with
  | scalar s => cases shape <;> exact absurd rfl table
  | record values => rfl

lemma keys_zip {σ δ : Type} {fields : List (Field σ δ)} {data : List δ}
    (length : data.length = fields.length) :
    (fields.zip data).map (·.1.key) = fields.map (·.key) := by
  have firsts : (fields.zip data).map Prod.fst = fields :=
    List.map_fst_zip (Nat.le_of_eq length.symm)
  have names := congrArg (List.map (·.key)) firsts
  rwa [List.map_map] at names

lemma zip_keys {σ δ : Type} (fields : List (Field σ δ)) (data : List δ) (f : δ → Option Value) :
    (fields.map (·.key)).zip (data.map f) =
      (fields.zip data).map fun pair => (pair.1.key, f pair.2) := List.zip_map

lemma mem_zip_keys {σ δ : Type} {fields : List (Field σ δ)} {data : List δ} {pair : Field σ δ × δ}
    (mem : pair ∈ fields.zip data) (f : δ → Option Value) :
    (pair.1.key, f pair.2) ∈ (fields.map (·.key)).zip (data.map f) := by
  rw [zip_keys]
  exact List.mem_map_of_mem mem

/-- The data of a record is written as a document of its table. -/
lemma document_dataText {shape : RecordShape} {data : List Datum} {text : String}
    (tidy : TidyShape shape) (length : data.length = shape.fields.length)
    (bounded : ∀ datum ∈ data, ∀ s ∈ scalarsOf datum, NotBelow s)
    (written : dataText shape data = .ok text) :
    document text = some (entriesOf shape data) := by
  obtain ⟨scalars, flat, written⟩ := bind_eq_ok.1 written
  obtain ⟨tables, nested, written⟩ := bind_eq_ok.1 written
  obtain rfl := Except.ok.inj written
  rw [scalarLines_eq_lines] at flat
  rw [tableLines_eq] at nested
  obtain ⟨lists, each, rfl⟩ := map_eq_ok.1 nested
  have flatBounded : ∀ s ∈ data.map scalarOf, NotBelow s := by
    intro s mem
    obtain ⟨datum, among, rfl⟩ := List.mem_map.1 mem
    exact notBelow_scalarOf (bounded datum among)
  have first : Reads scalars.toList {} { current := present _ _ } :=
    reads_lines tidy.keys flatBounded (fun _ _ => List.lookup_nil) flat
  have fresh : ∀ pair ∈ shape.fields.zip data, tableOf? pair ≠ none →
      (present (shape.fields.map (·.key)) ((data.map scalarOf).map valueOf?)).lookup pair.1.key =
        none := by
    intro pair mem table
    rw [List.map_map, lookup_present tidy.keys.distinct (mem_zip_keys mem _)]
    exact scalarOf_of_table table
  obtain ⟨after, read, closed⟩ := reads_tables (keys_zip length ▸ tidy.keys)
    (fun pair mem => tidy.inner pair.1 (List.of_mem_zip mem).1)
    (fun pair mem => bounded pair.2 (List.of_mem_zip mem).2)
    fresh each first rfl
  rw [keys_zip length, List.map_map] at closed
  exact document_of_reads read closed

end TunnelKeeper.Toml
