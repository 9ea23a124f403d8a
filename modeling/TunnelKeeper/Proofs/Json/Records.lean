import Mathlib.Data.List.Forall2
import TunnelKeeper.Proofs.Json.Scalars
import TunnelKeeper.Proofs.Toml.Records

/-!
Records come back from the objects they are written as. The members of an object are read one by
one; each step keeps what was read before under its key, and the run over all of them finds every
field. Whatever text a record is read from, its data fits the fields.
-/

namespace TunnelKeeper.Json

open Record (Scalar ScalarShape Shape Field FieldShape Datum FlatShape RecordShape Payload)
open Toml (bind_eq_ok map_eq_ok)

/-! ### The text of an object -/

section Text

variable {σ δ : Type} (write : σ → δ → String)

/-- What is written for a field and its value. -/
def memberText (pair : Field σ δ × δ) : String :=
  text pair.1.key ++ ":" ++ write pair.1.shape pair.2

lemma length_memberText (pair : Field σ δ × δ) : 0 < (memberText write pair).toList.length := by
  rw [memberText, String.toList_append, String.toList_append, toList_text]
  exact Nat.succ_pos _

/-- The first member of an object begins at once, each other one behind a comma. -/
def lead (first : Bool) : List Char := if first then [] else [',']

/-- The members of an object, as its first or behind others. -/
def members : Bool → List (Field σ δ × δ) → List Char
  | _, [] => []
  | first, pair :: pairs => lead first ++ ((memberText write pair).toList ++ members false pairs)

lemma toList_intercalate (pairs : List (Field σ δ × δ)) :
    (",".intercalate (pairs.map (memberText write))).toList = members write true pairs := by
  rw [String.toList_intercalate]
  induction pairs with
  | nil => rfl
  | cons pair pairs ih =>
    cases pairs with
    | nil => simp [List.intercalate, members, lead]
    | cons other pairs =>
      simp only [List.map_cons] at ih ⊢
      rw [List.intercalate_cons_cons, ih]
      simp [members, lead]

lemma zip_keys_zipWith (fields : List (Field σ δ)) (data : List δ) :
    (fields.map (·.key)).zip ((fields.map (·.shape)).zipWith write data) =
      (fields.zip data).map fun pair => (pair.1.key, write pair.1.shape pair.2) := by
  induction fields generalizing data with
  | nil => rfl
  | cons field fields ih =>
    cases data with
    | nil => rfl
    | cons d data => simp [ih]

lemma toList_recordText (shape : Shape σ δ) (data : List δ) :
    (recordText shape ((shape.fields.map (·.shape)).zipWith write data)).toList =
      '{' :: (members write true (shape.fields.zip data) ++ ['}']) := by
  rw [recordText, zip_keys_zipWith, objectText, List.map_map, String.toList_append,
    String.toList_append, ← toList_intercalate]
  rfl

end Text

/-! ### Members -/

section Key

variable {here : Cursor} {rest : List Char}

lemma nextKey_text {first : Bool} {key : String}
    (front : here.rest = lead first ++ ((text key).toList ++ rest)) :
    ∃ after, nextKey first here = .ok (some key, after) ∧ after.rest = rest := by
  cases first with
  | true =>
    rw [lead, if_pos rfl, List.nil_append] at front
    obtain ⟨after, read, left⟩ := textBody_text key front
    refine ⟨after, ?_, left⟩
    rw [toList_text, List.cons_append] at front
    have start : here.skipSpace = here := Cursor.skipSpace_eq front rfl
    unfold nextKey
    simp only [start, front, Char.reduceEq, ↓reduceIte, Bool.true_or]
    exact bind_eq_ok.2 ⟨(key, after), read, rfl⟩
  | false =>
    rw [lead, if_neg Bool.false_ne_true, List.singleton_append] at front
    have behind : here.next.rest = (text key).toList ++ rest := Cursor.rest_next front
    obtain ⟨after, read, left⟩ := textBody_text key behind
    refine ⟨after, ?_, left⟩
    rw [toList_text, List.cons_append] at behind
    have start : here.skipSpace = here := Cursor.skipSpace_eq front rfl
    have start' : here.next.skipSpace = here.next := Cursor.skipSpace_eq behind rfl
    unfold nextKey
    simp only [start, start', front, behind, Char.reduceEq, ↓reduceIte, Bool.false_or,
      decide_true, Bool.false_eq_true]
    exact bind_eq_ok.2 ⟨(key, after), read, rfl⟩

lemma nextKey_close {first : Bool} (front : here.rest = '}' :: rest) :
    nextKey first here = .ok (none, here) := by
  have start : here.skipSpace = here := Cursor.skipSpace_eq front rfl
  unfold nextKey
  simp only [start, front]
  rfl

lemma colon_cons (front : here.rest = ':' :: rest) : colon here = .ok here.next := by
  have start : here.skipSpace = here := Cursor.skipSpace_eq front rfl
  unfold colon
  simp only [start, front]
  rfl

end Key

section Record

variable {σ δ : Type} {read : σ → Cursor → Reader (δ × Cursor)} {write : σ → δ → String}

/-- One member is read: its value is found under its key, and the others are left. -/
lemma readMembers_member {shape : Shape σ δ} {pair : Field σ δ × δ} {first : Bool}
    {found : List (String × δ)} {here : Cursor} {rest : List Char}
    (known : shape.field? pair.1.key = some pair.1) (fresh : found.lookup pair.1.key = none)
    (takes : Takes (read pair.1.shape) (write pair.1.shape pair.2).toList pair.2)
    (front : here.rest = lead first ++ ((memberText write pair).toList ++ rest))
    (ended : Ended rest) (rounds : Nat) :
    ∃ after, readMembers read shape (rounds + 1) first found here =
      readMembers read shape rounds false ((pair.1.key, pair.2) :: found) after ∧
      after.rest = rest := by
  rw [memberText, String.toList_append, String.toList_append, List.append_assoc,
    List.append_assoc] at front
  obtain ⟨middle, key, behind⟩ := nextKey_text front
  have mark : colon middle = .ok middle.next := colon_cons behind
  obtain ⟨after, value, left⟩ := takes middle.next rest (Cursor.rest_next behind) ended
  refine ⟨after, ?_, left⟩
  rw [readMembers, key]
  simp only [bind, Except.bind, known, fresh, Option.isSome_none, mark, value]
  rfl

lemma ended_members (pairs : List (Field σ δ × δ)) (rest : List Char) :
    Ended (members write false pairs ++ '}' :: rest) := by
  intro c front
  cases pairs with
  | nil => exact .inr (Option.some.inj front).symm
  | cons pair pairs => exact .inl (Option.some.inj front).symm

/-- All members are read, up to the closing brace: whatever was found before is still there, and
each field has its value. -/
lemma readMembers_pairs {shape : Shape σ δ} {pairs : List (Field σ δ × δ)}
    (known : ∀ pair ∈ pairs, shape.field? pair.1.key = some pair.1)
    (distinct : (pairs.map (·.1.key)).Nodup)
    (takes : ∀ pair ∈ pairs, Takes (read pair.1.shape) (write pair.1.shape pair.2).toList pair.2)
    {rounds : Nat} {first : Bool} {found : List (String × δ)} {here : Cursor} {rest : List Char}
    (fresh : ∀ pair ∈ pairs, found.lookup pair.1.key = none)
    (front : here.rest = members write first pairs ++ '}' :: rest)
    (enough : here.rest.length < rounds) :
    ∃ all after, readMembers read shape rounds first found here =
        .ok (Record.complete shape.fields all, after) ∧ after.rest = '}' :: rest ∧
      (∀ pair ∈ pairs, all.lookup pair.1.key = some pair.2) ∧
      ∀ key d, found.lookup key = some d → all.lookup key = some d := by
  induction pairs generalizing rounds first found here with
  | nil =>
    obtain ⟨rounds, rfl⟩ := Nat.exists_eq_succ_of_ne_zero (Nat.ne_zero_of_lt enough)
    refine ⟨found, here, ?_, front, List.forall_mem_nil _, fun _ _ there => there⟩
    rw [readMembers, nextKey_close front]
    rfl
  | cons pair pairs ih =>
    obtain ⟨rounds, rfl⟩ := Nat.exists_eq_succ_of_ne_zero (Nat.ne_zero_of_lt enough)
    obtain ⟨here_known, known⟩ := List.forall_mem_cons.1 known
    obtain ⟨here_takes, takes⟩ := List.forall_mem_cons.1 takes
    obtain ⟨here_fresh, fresh⟩ := List.forall_mem_cons.1 fresh
    obtain ⟨apart, distinct⟩ := List.nodup_cons.1 distinct
    rw [members, List.append_assoc, List.append_assoc] at front
    obtain ⟨next, step, left⟩ := readMembers_member here_known here_fresh here_takes front
      (ended_members pairs rest) rounds
    have shorter : next.rest.length < here.rest.length := by
      have some := length_memberText write pair
      rw [left, front]
      simp only [List.length_append]
      omega
    have fresh : ∀ other ∈ pairs, ((pair.1.key, pair.2) :: found).lookup other.1.key = none := by
      intro other mem
      have apart : other.1.key ≠ pair.1.key := fun eq =>
        apart (List.mem_map.2 ⟨other, mem, eq⟩)
      rw [List.lookup_cons, beq_eq_false_iff_ne.2 apart]
      exact fresh other mem
    have few : next.rest.length < rounds := by omega
    obtain ⟨all, after, read, close, each, kept⟩ := ih known distinct takes fresh left few
    refine ⟨all, after, step.trans read, close, List.forall_mem_cons.2 ⟨?_, each⟩, ?_⟩
    · exact kept _ _ List.lookup_cons_self
    · intro key d there
      have apart : key ≠ pair.1.key := by
        rintro rfl
        rw [here_fresh] at there
        cases there
      refine kept key d ?_
      rw [List.lookup_cons, beq_eq_false_iff_ne.2 apart]
      exact there

/-- The data fits the fields of a record one by one. -/
def FitsShape (fits : σ → δ → Prop) (shape : Shape σ δ) (data : List δ) : Prop :=
  List.Forall₂ (fun field d => fits field.shape d) shape.fields data

/-- What describes a record that is read back: no two fields have the same key, each is described
well, and falls back only to what fits it. -/
structure LegibleShape (legible : σ → Prop) (fits : σ → δ → Prop) (shape : Shape σ δ) : Prop where
  distinct : (shape.fields.map (·.key)).Nodup
  each : ∀ field ∈ shape.fields, legible field.shape
  fallbacks : ∀ field ∈ shape.fields, ∀ d, field.fallback = some d → fits field.shape d

lemma closeRecord_close {here : Cursor} {rest : List Char} (front : here.rest = '}' :: rest)
    (data : List δ) :
    ∃ after, closeRecord '}' (.ok data, here) = .ok (data, after) ∧ after.rest = rest := by
  refine ⟨here.next, ?_, Cursor.rest_next front⟩
  have start : here.skipSpace = here := Cursor.skipSpace_eq front rfl
  unfold closeRecord
  simp only [start, front, List.head?_cons, ↓reduceIte]

/-- **A record is read back from the object it is written as**, if the values of its fields are. -/
lemma takes_record {legible : σ → Prop} {fits : σ → δ → Prop}
    (fields : ∀ s d, legible s → fits s d → Takes (read s) (write s d).toList d)
    {shape : Shape σ δ} (tidy : LegibleShape legible fits shape) {data : List δ}
    (apt : FitsShape fits shape data) :
    Takes (readRecord read shape)
      (recordText shape ((shape.fields.map (·.shape)).zipWith write data)).toList data := by
  intro here rest front _
  obtain ⟨length, apt⟩ := List.forall₂_iff_zip.1 apt
  have among : ∀ pair ∈ shape.fields.zip data, pair.1 ∈ shape.fields := fun _ mem =>
    (List.of_mem_zip mem).1
  have distinct : ((shape.fields.zip data).map (·.1.key)).Nodup := by
    rw [Toml.keys_zip length.symm]
    exact tidy.distinct
  rw [toList_recordText, List.cons_append, List.append_assoc, List.singleton_append] at front
  have start : here.skipSpace = here := Cursor.skipSpace_eq front rfl
  have inside := Cursor.rest_next front
  obtain ⟨all, close, ok, left, each, -⟩ := readMembers_pairs
    (fun pair mem => Toml.field?_of_mem tidy.distinct (among pair mem)) distinct
    (fun pair mem => fields _ _ (tidy.each _ (among pair mem)) (apt mem))
    (fun _ _ => List.lookup_nil) inside (Nat.lt_succ_self _)
  have complete : Record.complete shape.fields all = .ok data :=
    Toml.complete_eq length.symm fun pair mem => by rw [each pair mem, Option.some_or]
  rw [inside, complete] at ok
  obtain ⟨after, closed, left⟩ := closeRecord_close left data
  refine ⟨after, ?_, left⟩
  unfold readRecord
  simp only [start, front, ↓reduceIte]
  exact bind_eq_ok.2 ⟨_, ok, closed⟩

end Record

/-! ### Whole texts -/

/-- What a field of a record holds. -/
inductive FitsField : FieldShape → Datum → Prop where
  | scalar {shape : ScalarShape} {s : Scalar} (fits : shape.Fits s) :
    FitsField (.scalar shape) (.scalar s)
  | record {shape : FlatShape} {values : List Scalar}
    (fits : FitsShape ScalarShape.Fits shape values) : FitsField (.record shape) (.record values)

/-- A field that is read back: a scalar, or a record of scalars. -/
def LegibleField : FieldShape → Prop
  | .scalar shape => Legible shape
  | .record shape => LegibleShape Legible ScalarShape.Fits shape

lemma map_scalarText {shape : FlatShape} {values : List Scalar}
    (length : values.length = shape.fields.length) :
    values.map scalarText =
      (shape.fields.map (·.shape)).zipWith (fun _ s => scalarText s) values := by
  generalize shape.fields = fields at length
  induction fields generalizing values with
  | nil =>
    obtain rfl := List.length_eq_zero_iff.1 length
    rfl
  | cons field fields ih =>
    obtain ⟨s, values, rfl⟩ := List.exists_cons_of_length_eq_add_one length
    simp [ih (Nat.succ.inj length)]

lemma takes_field {shape : FieldShape} {d : Datum} (legible : LegibleField shape)
    (fits : FitsField shape d) : Takes (readField shape) (datumText shape d).toList d := by
  cases fits with
  | scalar fits => exact (takes_scalar legible fits).bind fun _ => rfl
  | record fits =>
    rw [datumText, map_scalarText fits.length_eq.symm]
    exact (takes_record (fun _ _ => takes_scalar) legible fits).bind fun _ => rfl

/-- The data of a record is read back from its text. -/
theorem readData_dataText {shape : RecordShape} {data : List Datum}
    (legible : LegibleShape LegibleField FitsField shape) (fits : FitsShape FitsField shape data) :
    readData shape (dataText shape data) = .ok data := by
  have front : (Cursor.ofString (dataText shape data)).rest = (dataText shape data).toList ++ [] :=
    (List.append_nil _).symm
  obtain ⟨after, read, left⟩ :=
    takes_record (fun _ _ => takes_field) legible fits _ [] front (by nofun)
  have ended : atEnd after = .ok () := by
    unfold atEnd Cursor.skipSpace
    rw [Cursor.rest_skipWhile, left]
    rfl
  exact bind_eq_ok.2 ⟨_, read, bind_eq_ok.2 ⟨(), ended, rfl⟩⟩

/-- What is written for a value is decoded as the value that its data stands for: a type may keep
less in its data than in its values. -/
theorem decode_encode {α : Type} [Payload α] {value value' : α}
    (legible : LegibleShape LegibleField FitsField (Payload.shape α))
    (fits : FitsShape FitsField (Payload.shape α) (Payload.toData value))
    (back : Payload.ofData? (Payload.toData value) = some value') :
    decode α (encode value) = .ok value' := by
  refine bind_eq_ok.2 ⟨_, readData_dataText legible fits, ?_⟩
  simp only [back]
  rfl

/-! ### What is read -/

section Walk

variable {σ δ : Type} {read : σ → Cursor → Reader (δ × Cursor)} {fits : σ → δ → Prop}

/-- Whatever is read for these fields, and what they fall back to, fits them. -/
structure Yields (read : σ → Cursor → Reader (δ × Cursor)) (fits : σ → δ → Prop)
    (fields : List (Field σ δ)) : Prop where
  reads : ∀ field ∈ fields, ∀ here d after,
    read field.shape here = .ok (d, after) → fits field.shape d
  fallbacks : ∀ field ∈ fields, ∀ d, field.fallback = some d → fits field.shape d

lemma Yields.tail {field : Field σ δ} {fields : List (Field σ δ)}
    (yields : Yields read fits (field :: fields)) : Yields read fits fields :=
  ⟨(List.forall_mem_cons.1 yields.reads).2, (List.forall_mem_cons.1 yields.fallbacks).2⟩

/-- Each value found under the key of a field fits it. -/
def FoundFits (fits : σ → δ → Prop) (fields : List (Field σ δ)) (found : List (String × δ)) :
    Prop :=
  ∀ field ∈ fields, ∀ d, found.lookup field.key = some d → fits field.shape d

lemma Yields.complete {fields : List (Field σ δ)} (yields : Yields read fits fields)
    {found : List (String × δ)} (apt : FoundFits fits fields found) {data : List δ}
    (ok : Record.complete fields found = .ok data) :
    List.Forall₂ (fun field d => fits field.shape d) fields data := by
  induction fields generalizing data with
  | nil =>
    cases ok
    exact .nil
  | cons field fields ih =>
    obtain ⟨here, apt⟩ := List.forall_mem_cons.1 apt
    unfold Record.complete at ok
    split at ok
    · next d taken =>
      obtain ⟨more, later, rfl⟩ := map_eq_ok.1 ok
      refine .cons ?_ (ih yields.tail apt later)
      rcases Option.or_eq_some_iff.1 taken with there | ⟨-, fallback⟩
      · exact here d there
      · exact yields.fallbacks field List.mem_cons_self d fallback
    · cases ok

/-- The members of an object: each round keeps that what was found fits. -/
lemma Yields.readMembers {shape : Shape σ δ} (distinct : (shape.fields.map (·.key)).Nodup)
    (yields : Yields read fits shape.fields) {rounds : Nat} {first : Bool}
    {found : List (String × δ)} (apt : FoundFits fits shape.fields found) {here after : Cursor}
    {data : List δ} (ok : readMembers read shape rounds first found here = .ok (.ok data, after)) :
    FitsShape fits shape data := by
  induction rounds generalizing first found here with
  | zero => cases ok
  | succ rounds ih =>
    obtain ⟨⟨key, next⟩, -, ok⟩ := bind_eq_ok.1 ok
    split at ok
    · obtain ⟨made, -⟩ := Prod.mk.inj (Except.ok.inj ok)
      exact yields.complete apt made
    · next key next eq =>
      split at ok
      · obtain ⟨middle, -, ok⟩ := bind_eq_ok.1 ok
        obtain ⟨last, -, ok⟩ := bind_eq_ok.1 ok
        exact ih apt ok
      · next field known =>
        split at ok
        · cases ok
        · obtain ⟨middle, -, ok⟩ := bind_eq_ok.1 ok
          obtain ⟨⟨d, last⟩, value, ok⟩ := bind_eq_ok.1 ok
          refine ih (fun other mem d' there => ?_) ok
          rw [List.lookup_cons] at there
          split at there
          · next same =>
            obtain rfl : d = d' := Option.some.inj there
            have named := Toml.field?_of_mem distinct mem
            rw [eq_of_beq same] at named
            obtain rfl : field = other := Option.some.inj (known.symm.trans named)
            exact yields.reads field mem _ _ _ value
          · exact apt other mem d' there

lemma Yields.readElements {shape : Shape σ δ} {fields : List (Field σ δ)}
    (yields : Yields read fits fields) {count : Nat} {here after : Cursor} {data : List δ}
    (ok : readElements read shape fields count here = .ok (.ok data, after)) :
    List.Forall₂ (fun field d => fits field.shape d) fields data := by
  induction fields generalizing count here after data with
  | nil =>
    obtain ⟨none, -⟩ := Prod.mk.inj (Except.ok.inj ok)
    obtain rfl := Except.ok.inj none
    exact .nil
  | cons field fields ih =>
    obtain ⟨⟨more, start⟩, -, ok⟩ := bind_eq_ok.1 ok
    dsimp only at ok
    split at ok
    · obtain ⟨⟨d, next⟩, value, ok⟩ := bind_eq_ok.1 ok
      obtain ⟨⟨rest, last⟩, later, ok⟩ := bind_eq_ok.1 ok
      obtain ⟨made, -⟩ := Prod.mk.inj (Except.ok.inj ok)
      obtain ⟨others, rfl, rfl⟩ := map_eq_ok.1 made
      exact .cons (yields.reads field List.mem_cons_self _ _ _ value) (ih yields.tail later)
    · split at ok
      · cases ok
      · next d fallback =>
        obtain ⟨⟨rest, last⟩, later, ok⟩ := bind_eq_ok.1 ok
        obtain ⟨made, -⟩ := Prod.mk.inj (Except.ok.inj ok)
        obtain ⟨others, rfl, rfl⟩ := map_eq_ok.1 made
        exact .cons (yields.fallbacks field List.mem_cons_self d fallback) (ih yields.tail later)

lemma closeRecord_eq_ok {bracket : Char} {inside : Inside δ} {data : List δ} {after : Cursor}
    (ok : closeRecord bracket inside = .ok (data, after)) : inside.1 = .ok data := by
  obtain ⟨values, here⟩ := inside
  unfold closeRecord at ok
  dsimp only at ok
  split at ok
  · cases ok
  · split at ok
    · cases ok
    · split at ok
      · obtain ⟨same, -⟩ := Prod.mk.inj (Except.ok.inj ok)
        rw [same]
      · cases ok

lemma Yields.readRecord {shape : Shape σ δ} (distinct : (shape.fields.map (·.key)).Nodup)
    (yields : Yields read fits shape.fields) {here after : Cursor} {data : List δ}
    (ok : readRecord read shape here = .ok (data, after)) : FitsShape fits shape data := by
  unfold Json.readRecord at ok
  dsimp only at ok
  split at ok
  · cases ok
  · split at ok
    · obtain ⟨⟨inside, last⟩, members, ok⟩ := bind_eq_ok.1 ok
      obtain rfl : inside = .ok data := closeRecord_eq_ok ok
      exact yields.readMembers distinct (fun _ _ _ there => by cases there) members
    · split at ok
      · obtain ⟨⟨inside, last⟩, elements, ok⟩ := bind_eq_ok.1 ok
        obtain rfl : inside = .ok data := closeRecord_eq_ok ok
        exact yields.readElements elements
      · exact absurd ok wrongType_ne_ok

end Walk

lemma fits_of_readField {shape : FieldShape} (legible : LegibleField shape) {here after : Cursor}
    {d : Datum} (ok : readField shape here = .ok (d, after)) : FitsField shape d := by
  cases shape with
  | scalar shape =>
    obtain ⟨⟨s, place⟩, inside, ok⟩ := bind_eq_ok.1 ok
    cases ok
    exact .scalar (fits_of_readScalar inside)
  | record shape =>
    obtain ⟨⟨values, place⟩, inside, ok⟩ := bind_eq_ok.1 ok
    cases ok
    have yields : Yields readScalar ScalarShape.Fits shape.fields :=
      ⟨fun _ _ _ _ _ => fits_of_readScalar, legible.fallbacks⟩
    exact .record (yields.readRecord legible.distinct inside)

section Data

variable {shape : RecordShape} (legible : LegibleShape LegibleField FitsField shape)
include legible

/-- The data that is read from a text fits the record. -/
theorem fits_of_readData {s : String} {data : List Datum} (ok : readData shape s = .ok data) :
    FitsShape FitsField shape data := by
  obtain ⟨⟨values, after⟩, read, ok⟩ := bind_eq_ok.1 ok
  obtain ⟨_, -, ok⟩ := bind_eq_ok.1 ok
  cases ok
  have yields : Yields readField FitsField shape.fields :=
    ⟨fun field mem _ _ _ => fits_of_readField (legible.each field mem), legible.fallbacks⟩
  exact yields.readRecord legible.distinct read

/-- Whatever text data was read from, it is read again from its own. -/
theorem readData_again {s : String} {data : List Datum} (ok : readData shape s = .ok data) :
    readData shape (dataText shape data) = .ok data :=
  readData_dataText legible (fits_of_readData legible ok)

end Data

end TunnelKeeper.Json
