import Flowchart.Instance
import Flowchart.Proofs.Build
import Flowchart.Proofs.Cutting

/-!
# The names of a built machine

A state is found by its acronym or its name, with any blanks around.  No blank is a
capital letter, so an acronym has none around it and stands for itself.

Every declared name has a capital letter.  The tag that is shown in place of a missing
name has none, so it is never taken for a name.
-/

namespace Flowchart

namespace Text

/-- A character of a range that is apart from all capital letters is none. -/
theorem not_isUppercase_of_apart
    {low high : Nat}
    (hapart : ∀ p ∈ uppercaseTable, high < p.first ∨ p.last < low)
    {c : Char}
    (hlow : low ≤ c.toNat)
    (hhigh : c.toNat ≤ high) :
    ¬ isUppercase c = true := by
  intro hcapital
  obtain ⟨p, hp, hc⟩ := List.any_eq_true.1 hcapital
  simp only [Progression.contains, Bool.and_eq_true, decide_eq_true_eq] at hc
  have := hapart p hp
  omega

theorem not_isUppercase_of_isBlank
    {c : Char}
    (hblank : isBlank c = true) :
    ¬ isUppercase c = true := by
  have hapart : ∀ r ∈ blankRanges, ∀ p ∈ uppercaseTable,
      r.2 < p.first ∨ p.last < r.1 := by
    decide +kernel
  obtain ⟨r, hr, hc⟩ := List.any_eq_true.1 hblank
  simp only [Bool.and_eq_true, decide_eq_true_eq] at hc
  exact not_isUppercase_of_apart (hapart r hr) hc.1 hc.2

/-- Nothing is trimmed from a text without blanks. -/
theorem trim_eq_self
    {text : List Char}
    (h : ∀ c ∈ text, ¬ isBlank c = true) :
    trim text = text :=
  trim_of_bare {
    head := fun c hc => h c (List.mem_of_mem_head? hc)
    last := fun c hc => h c (List.mem_of_mem_getLast? hc) }

end Text

theorem trimmed_acronym
    (name : String) :
    trimmed (acronym name) = acronym name := by
  have hcapitals : ∀ c ∈ (acronym name).toList, ¬ Text.isBlank c = true := by
    intro c hc hblank
    have hmem : c ∈ name.toList.filter Text.isUppercase := by
      simpa [acronym] using hc
    exact Text.not_isUppercase_of_isBlank hblank (List.mem_filter.1 hmem).2
  rw [trimmed, Text.trim_eq_self hcapitals, String.ofList_toList]

/-- A tag has no capital letter. -/
theorem not_isUppercase_of_mem_tag
    {id : StateId}
    {c : Char}
    (hc : c ∈ (StateId.tag id).toList) :
    ¬ Text.isUppercase c = true := by
  have hapart : ∀ p ∈ Text.uppercaseTable, '9'.toNat < p.first ∨ p.last < '#'.toNat := by
    decide +kernel
  rw [StateId.tag, String.toList_append, List.mem_append] at hc
  rcases hc with hhash | hdigit
  · have hc : c = '#' := by
      simpa using hhash
    subst hc
    exact Text.not_isUppercase_of_apart hapart (by decide) (by decide)
  · have hdigits : (toString id).toList = Nat.toDigits 10 id := by
      simp [Nat.toString_eq_repr, Nat.toList_repr]
    rw [hdigits] at hdigit
    have hc := Nat.isDigit_of_mem_toDigits (by decide) (by decide) hdigit
    obtain ⟨hlow, hhigh⟩ : '0'.toNat ≤ c.toNat ∧ c.toNat ≤ '9'.toNat := by
      simpa [Char.isDigit, UInt32.le_iff_toNat_le] using hc
    have hhash : '#'.toNat ≤ '0'.toNat := by
      decide
    exact Text.not_isUppercase_of_apart hapart (Nat.le_trans hhash hlow) hhigh

namespace Blueprint

variable {ω D : Type} {b : Blueprint ω D} {m : Machine ω D}

theorem name_ne_tag_of_build
    (hbuild : b.build = .ok m)
    {name : String}
    (hname : name ∈ b.names)
    (id : StateId) :
    name ≠ StateId.tag id := by
  obtain ⟨-, hcapital, -⟩ := (build_eq_ok_iff b m).1 hbuild
  obtain ⟨c, hc, hupper⟩ := hcapital name hname
  rintro rfl
  exact not_isUppercase_of_mem_tag hc hupper

/-- The states of a built machine are labelled with their names. -/
theorem label_mem_names_of_build
    (hbuild : b.build = .ok m)
    {id : StateId}
    (hlt : id < m.states.length) :
    m.label id ∈ b.names := by
  have hname := m.nameOf?_of_lt hlt
  rw [nameOf?_of_build hbuild] at hname
  exact List.mem_of_getElem? hname

theorem idOf?_of_build
    (hbuild : b.build = .ok m)
    (text : String) :
    m.idOf? text = position? b.names (trimmed text) := by
  obtain ⟨-, -, hnodup, rows, start, -, -, -, rfl⟩ := (build_eq_ok_iff b m).1 hbuild
  exact Directory.resolve?_ofEntries hnodup _

theorem resolve_lt_of_build
    (hbuild : b.build = .ok m)
    {text : String}
    {id : StateId}
    (h : m.resolve text = .ok id) :
    id < m.states.length := by
  unfold Machine.resolve at h
  cases hid : m.idOf? text with
  | none =>
      simp [hid] at h
  | some found =>
      simp only [hid, Except.ok.injEq] at h
      subst h
      rw [idOf?_of_build hbuild] at hid
      rw [length_states_of_build hbuild]
      simpa [names] using position?_lt hid

/-- A state is found by its acronym, and by its name unless that has blanks around. -/
theorem idOf?_eq_some_of_build
    (hbuild : b.build = .ok m)
    {p : Nat}
    {name text : String}
    (hname : b.names[p]? = some name)
    (htext : text = acronym name ∨ text = name ∧ trimmed name = name) :
    m.idOf? text = some p := by
  obtain ⟨-, -, hnodup, -⟩ := (build_eq_ok_iff b m).1 hbuild
  rw [idOf?_of_build hbuild, position?_eq_some_iff hnodup]
  refine ⟨name, hname, ?_⟩
  rcases htext with rfl | ⟨rfl, htrimmed⟩
  · exact .inl (trimmed_acronym name).symm
  · exact .inr htrimmed.symm

/-- The targets of a state that is found are named one by one. -/
theorem targetsOf?_of_build
    (hbuild : b.build = .ok m)
    {id : StateId}
    {text : String}
    (hid : m.idOf? text = some id) :
    ∃ row targets, m.row? id = some row ∧ m.targetsOf? text = some targets ∧
      targets.map some = row.targets.map m.nameOf? := by
  have hresolve : m.resolve text = .ok id := by
    simp [Machine.resolve, hid]
  have hlt := resolve_lt_of_build hbuild hresolve
  have hs := List.getElem?_eq_getElem hlt
  generalize m.states[id] = s at hs
  have hrow : m.row? id = some s.row := by
    simp [Machine.row?, hs]
  have hnamed : ∀ t ∈ s.row.targets, m.nameOf? t = some (m.label t) := by
    intro t ht
    have hmem := List.mem_of_getElem? hs
    exact m.nameOf?_of_lt ((wellFormed_of_build hbuild).target_lt s hmem t ht)
  refine ⟨s.row, s.row.targets.map m.label, hrow, ?_, ?_⟩
  · simp only [Machine.targetsOf?, hid, hrow, Option.bind_eq_bind, Option.bind_some,
      Option.pure_def, Option.some.injEq]
    rw [List.filterMap_congr hnamed, ← List.filterMap_eq_map]
    rfl
  · rw [List.map_map]
    exact List.map_congr_left fun t ht => (hnamed t ht).symm

end Blueprint
end Flowchart
