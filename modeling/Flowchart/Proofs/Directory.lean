import Flowchart.Directory
import Mathlib.Data.List.Nodup

/-!
# Directories of names

This module describes the directory of a list of names without its construction.
A directory exists exactly if every name has a capital letter and no two
acronyms are equal, and it then finds each state under its acronym and under its
name and finds nothing else.

Acronyms and names are looked up with the same tokens.  A name that is the
acronym of another state consists of capital letters only, so it is its own
acronym, and the two acronyms would be equal.
-/

namespace Flowchart

/-- The capital letters of an acronym are all of its letters. -/
theorem acronym_acronym
    (name : String) :
    acronym (acronym name) = acronym name := by
  simp [acronym, List.filter_filter]

/-- A name has an acronym exactly if it has a capital letter. -/
theorem acronym_ne_empty_iff
    (name : String) :
    acronym name ≠ "" ↔
      ∃ c ∈ name.toList, Text.isUppercase c = true := by
  have hempty : acronym name = "" ↔
      name.toList.filter Text.isUppercase = [] := by
    rw [acronym, ← String.toList_inj]
    simp
  rw [Ne, hempty, List.filter_eq_nil_iff]
  simp

/-- A token that is the acronym or the name of a state addresses it. -/
def Addresses (token name : String) : Prop :=
  acronym name = token ∨ name = token

instance (token name : String) : Decidable (Addresses token name) :=
  inferInstanceAs (Decidable (_ ∨ _))

/-- Names that one token addresses have one acronym. -/
theorem acronym_eq_of_addresses
    {token first second : String}
    (hfirst : Addresses token first)
    (hsecond : Addresses token second) :
    acronym first = acronym second := by
  rcases hfirst with hfirst | hfirst <;>
    rcases hsecond with hsecond | hsecond
  · rw [hfirst, hsecond]
  · rw [hsecond, ← hfirst, acronym_acronym]
  · rw [hfirst, ← hsecond, acronym_acronym]
  · rw [hfirst, hsecond]

/-- The first of the names that a token addresses. -/
def position? (names : List String) (token : String) : Option Nat :=
  names.findIdx? fun name => Addresses token name

/-- The search for an element that occurs only once. -/
theorem findIdx?_eq_some_iff_of_unique
    {α : Type}
    {l : List α}
    {p : α → Bool}
    (hunique : ∀ (i j : Nat) (a b : α),
      l[i]? = some a → l[j]? = some b →
      p a = true → p b = true → i = j)
    (i : Nat) :
    l.findIdx? p = some i ↔
      ∃ a, l[i]? = some a ∧ p a = true := by
  rw [List.findIdx?_eq_some_iff_getElem]
  constructor
  · rintro ⟨hlt, hp, -⟩
    exact ⟨l[i], List.getElem?_eq_getElem hlt, hp⟩
  · rintro ⟨a, ha, hp⟩
    obtain ⟨hlt, rfl⟩ := List.getElem?_eq_some_iff.1 ha
    refine ⟨hlt, hp, ?_⟩
    intro j hji hpj
    have hlt' : j < l.length := by omega
    have := hunique i j _ _ ha (List.getElem?_eq_getElem hlt') hp hpj
    omega

/-- Where acronyms differ, a token addresses one state at most. -/
theorem position_unique
    {names : List String}
    (hnodup : (names.map acronym).Nodup)
    {token first second : String}
    {i j : Nat}
    (hi : names[i]? = some first)
    (hj : names[j]? = some second)
    (hfirst : Addresses token first)
    (hsecond : Addresses token second) :
    i = j := by
  have hlt : i < (names.map acronym).length := by
    rw [List.length_map]
    exact (List.getElem?_eq_some_iff.1 hi).1
  apply (List.getElem?_inj hlt hnodup).1
  rw [List.getElem?_map, List.getElem?_map, hi, hj]
  simp [acronym_eq_of_addresses hfirst hsecond]

theorem position?_eq_some_iff
    {names : List String}
    (hnodup : (names.map acronym).Nodup)
    (token : String)
    (i : Nat) :
    position? names token = some i ↔
      ∃ name, names[i]? = some name ∧ Addresses token name := by
  rw [position?, findIdx?_eq_some_iff_of_unique]
  · simp
  · intro i j first second hi hj hfirst hsecond
    exact position_unique hnodup hi hj
      (of_decide_eq_true hfirst) (of_decide_eq_true hsecond)

theorem position?_lt
    {names : List String}
    {token : String}
    {i : Nat}
    (h : position? names token = some i) :
    i < names.length :=
  (List.findIdx?_eq_some_iff_getElem.1 h).1

namespace Directory

/-- The entry of a name. -/
def entryOf (name : String) : Entry :=
  ⟨acronym name, name⟩

/-- A directory in which every entry belongs to its name. -/
def ofEntries (names : List String) : Directory :=
  ⟨names.map entryOf⟩

/-- The test for a name that was entered before. -/
theorem any_name_ofEntries
    (names : List String)
    (name : String) :
    ((ofEntries names).entries.any fun e => e.name = name) = true ↔
      name ∈ names := by
  simp only [ofEntries, List.any_eq_true, List.mem_map, decide_eq_true_eq]
  constructor
  · rintro ⟨_, ⟨other, hmem, rfl⟩, rfl⟩
    exact hmem
  · intro hmem
    exact ⟨entryOf name, ⟨name, hmem, rfl⟩, rfl⟩

/-- The test for an acronym that was entered before. -/
theorem find?_acronym_ofEntries
    (names : List String)
    (short : String) :
    ((ofEntries names).entries.find? fun e => e.acronym = short) = none ↔
      short ∉ names.map acronym := by
  simp only [ofEntries, List.find?_eq_none, List.mem_map, decide_eq_true_eq]
  constructor
  · rintro hnone ⟨other, hmem, rfl⟩
    exact hnone (entryOf other) ⟨other, hmem, rfl⟩ rfl
  · rintro hnew _ ⟨other, hmem, rfl⟩ heq
    exact hnew ⟨other, hmem, heq⟩

/-- A name can be entered exactly if its acronym is not empty and is new. -/
theorem insert_eq_ok_iff
    (names : List String)
    (name : String)
    (d : Directory) :
    (ofEntries names).insert name = .ok d ↔
      acronym name ≠ "" ∧
      acronym name ∉ names.map acronym ∧
      d = ofEntries (names ++ [name]) := by
  simp only [insert]
  split_ifs with hempty hname
  · simp [hempty]
  · have hmem := (any_name_ofEntries names name).1 hname
    have := List.mem_map_of_mem (f := acronym) hmem
    simp [this]
  · cases hfind :
        (ofEntries names).entries.find? fun e => e.acronym = acronym name with
    | some earlier =>
        have : acronym name ∈ names.map acronym := by
          by_contra hnew
          rw [(find?_acronym_ofEntries names _).2 hnew] at hfind
          cases hfind
        simp [this]
    | none =>
        have hnew := (find?_acronym_ofEntries names _).1 hfind
        have hsnoc :
            ofEntries (names ++ [name]) =
              ⟨(ofEntries names).entries ++ [⟨acronym name, name⟩]⟩ := by
          simp [ofEntries, entryOf]
        rw [hsnoc, Except.ok.injEq, eq_comm (a := d)]
        exact ⟨fun h => ⟨hempty, hnew, h⟩, fun h => h.2.2⟩

theorem nodup_acronyms_concat_iff
    {names : List String}
    {name : String} :
    ((names ++ [name]).map acronym).Nodup ↔
      (names.map acronym).Nodup ∧ acronym name ∉ names.map acronym := by
  rw [List.map_append, List.map_singleton, ← List.concat_eq_append, List.nodup_concat,
    and_comm]

/-- Names can be entered one after the other exactly if no acronym is empty
and no two are equal. -/
theorem foldlM_insert_eq_ok_iff
    (names rest : List String)
    (d : Directory)
    (hnodup : (names.map acronym).Nodup) :
    rest.foldlM insert (ofEntries names) = .ok d ↔
      (∀ name ∈ rest, acronym name ≠ "") ∧
      ((names ++ rest).map acronym).Nodup ∧
      d = ofEntries (names ++ rest) := by
  induction rest generalizing names with
  | nil =>
      rw [List.foldlM_nil, List.append_nil]
      simp [hnodup, pure, Except.pure, eq_comm (a := d)]
  | cons name rest ih =>
      rw [List.foldlM_cons]
      constructor
      · intro h
        cases hins : (ofEntries names).insert name with
        | error e =>
            simp [hins, bind, Except.bind] at h
        | ok d₁ =>
            obtain ⟨hne, hnew, rfl⟩ :=
              (insert_eq_ok_iff names name d₁).1 hins
            have hnodup' := nodup_acronyms_concat_iff.2 ⟨hnodup, hnew⟩
            rw [hins] at h
            obtain ⟨hall, hdistinct, hd⟩ := (ih _ hnodup').1 h
            refine ⟨?_, by simpa using hdistinct, by simpa using hd⟩
            simpa [hne] using hall
      · rintro ⟨hall, hdistinct, rfl⟩
        have hsplit : (((names ++ [name]) ++ rest).map acronym).Nodup := by
          simpa using hdistinct
        have hnodup' := hsplit.sublist ((List.sublist_append_left _ rest).map acronym)
        have hnew := (nodup_acronyms_concat_iff.1 hnodup').2
        have hins := (insert_eq_ok_iff names name _).2
          ⟨hall name (by simp), hnew, rfl⟩
        rw [hins]
        refine (ih _ hnodup').2 ⟨?_, by simpa using hdistinct, by simp⟩
        intro other hother
        exact hall other (by simp [hother])

/-- A list of names has a directory exactly if every name has a capital letter
and no two acronyms are equal. -/
theorem ofNames_eq_ok_iff
    (names : List String)
    (d : Directory) :
    ofNames names = .ok d ↔
      (∀ name ∈ names, ∃ c ∈ name.toList, Text.isUppercase c = true) ∧
      (names.map acronym).Nodup ∧
      d = ofEntries names := by
  have h := foldlM_insert_eq_ok_iff [] names d (by simp)
  simp only [acronym_ne_empty_iff] at h
  exact h

/-- Names with different acronyms, none of them empty, have a directory. -/
theorem ofNames_of_nodup
    {names : List String}
    (hacronym : ∀ name ∈ names, acronym name ≠ "")
    (hnodup : (names.map acronym).Nodup) :
    ofNames names = .ok (ofEntries names) :=
  (ofNames_eq_ok_iff names _).2
    ⟨fun name hname => (acronym_ne_empty_iff name).1 (hacronym name hname), hnodup, rfl⟩

/-! ### Looking up -/

/-- The state with a given name. -/
def findName? (d : Directory) (token : String) : Option Nat :=
  d.entries.findIdx? fun e => e.name = token

/-- Two searches that never find different things find together what each finds. -/
theorem or_eq_some_iff_of_agree
    {α : Type}
    {first second : Option α}
    (hagree : ∀ a b, first = some a → second = some b → a = b)
    (a : α) :
    first.or second = some a ↔ first = some a ∨ second = some a := by
  cases first with
  | none =>
      simp
  | some b =>
      simp only [Option.some_or, Option.some.injEq]
      refine ⟨.inl, fun h => h.elim id fun hsecond => ?_⟩
      exact hagree b a rfl hsecond

section Lookup

variable {names : List String} (hnodup : (names.map acronym).Nodup) (token : String)
include hnodup

theorem lookup?_ofEntries_iff
    (i : Nat) :
    (ofEntries names).lookup? token = some i ↔
      ∃ name, names[i]? = some name ∧ acronym name = token := by
  rw [lookup?, ofEntries, List.findIdx?_map, findIdx?_eq_some_iff_of_unique]
  · simp only [Function.comp_apply, decide_eq_true_eq]
    rfl
  · intro i j first second hi hj hfirst hsecond
    exact position_unique hnodup hi hj
      (Or.inl (of_decide_eq_true hfirst)) (Or.inl (of_decide_eq_true hsecond))

theorem findName?_ofEntries_iff
    (i : Nat) :
    (ofEntries names).findName? token = some i ↔
      ∃ name, names[i]? = some name ∧ name = token := by
  rw [findName?, ofEntries, List.findIdx?_map, findIdx?_eq_some_iff_of_unique]
  · simp only [Function.comp_apply, decide_eq_true_eq]
    rfl
  · intro i j first second hi hj hfirst hsecond
    exact position_unique hnodup hi hj
      (Or.inr (of_decide_eq_true hfirst)) (Or.inr (of_decide_eq_true hsecond))

/-- A token that is an acronym and a name is both of one state. -/
theorem lookup?_agrees_findName?
    {i j : Nat}
    (hshort : (ofEntries names).lookup? token = some i)
    (hfull : (ofEntries names).findName? token = some j) :
    i = j := by
  obtain ⟨first, hi, hfirst⟩ := (lookup?_ofEntries_iff hnodup token i).1 hshort
  obtain ⟨second, hj, hsecond⟩ := (findName?_ofEntries_iff hnodup token j).1 hfull
  exact position_unique hnodup hi hj (Or.inl hfirst) (Or.inr hsecond)

theorem position?_eq_some_iff_lookup?_or_findName?
    (i : Nat) :
    position? names token = some i ↔
      (ofEntries names).lookup? token = some i ∨
        (ofEntries names).findName? token = some i := by
  rw [position?_eq_some_iff hnodup, lookup?_ofEntries_iff hnodup,
    findName?_ofEntries_iff hnodup, ← exists_or]
  simp only [Addresses, and_or_left]

/-- Trying acronyms first makes no difference where acronyms differ. -/
theorem resolve?_ofEntries :
    (ofEntries names).resolve? token = position? names token := by
  apply Option.ext
  intro i
  rw [position?_eq_some_iff_lookup?_or_findName? hnodup]
  exact or_eq_some_iff_of_agree (fun _ _ => lookup?_agrees_findName? hnodup token) i

/-- Trying names first makes no difference either. -/
theorem findName?_or_lookup?_ofEntries :
    ((ofEntries names).findName? token).or ((ofEntries names).lookup? token) =
      position? names token := by
  apply Option.ext
  intro i
  rw [position?_eq_some_iff_lookup?_or_findName? hnodup, or_comm]
  refine or_eq_some_iff_of_agree (fun a b hfull hshort => ?_) i
  exact (lookup?_agrees_findName? hnodup token hshort hfull).symm

end Lookup

end Directory
end Flowchart
