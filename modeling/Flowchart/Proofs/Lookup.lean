import Flowchart.Proofs.Directory

/-!
# A directory is unambiguous

A list of names has a directory, or there is a first name that cannot be entered, and
the error is about that name.  Names are entered in order, so the names before it have a
directory, and at most one of them has its acronym.

In a directory every token stands for one state at most.  So no name is hidden by the
acronym of another state.
-/

namespace Flowchart

/-- A name with a letter that an acronym can be formed from. -/
def HasCapital (name : String) : Prop :=
  ∃ c ∈ name.toList, Text.isUppercase c = true

/-- Names that can be entered one after the other: each has a capital letter, and no two
have one acronym. -/
structure Enterable (names : List String) : Prop where
  hasCapital : ∀ name ∈ names, HasCapital name
  nodup_acronyms : (names.map acronym).Nodup

/-- Why a name cannot be entered after others. -/
inductive Offends (earlier : List String) (name : String) : BuildError → Prop
  | noAcronym (h : ¬ HasCapital name) :
      Offends earlier name (.noAcronym name)
  | duplicate (hcapital : HasCapital name) (h : name ∈ earlier) :
      Offends earlier name (.duplicateState name)
  | collision {first : String} (hcapital : HasCapital name) (hnew : name ∉ earlier)
      (hfirst : first ∈ earlier) (h : acronym first = acronym name) :
      Offends earlier name (.acronymCollision (acronym name) first name)

namespace Directory

/-- A name that cannot be entered is reported with the reason. -/
theorem insert_eq_error_iff
    {names : List String}
    (hnodup : (names.map acronym).Nodup)
    (name : String)
    (e : BuildError) :
    (ofEntries names).insert name = .error e ↔ Offends names name e := by
  have hcapital : HasCapital name ↔ ¬ acronym name = "" := (acronym_ne_empty_iff name).symm
  simp only [insert]
  constructor
  · intro h
    split_ifs at h with hempty hmem
    · cases h
      exact .noAcronym fun hcap => hcapital.1 hcap hempty
    · cases h
      exact .duplicate (hcapital.2 hempty) ((any_name_ofEntries names name).1 hmem)
    · cases hfind : (ofEntries names).entries.find? fun e => e.acronym = acronym name with
      | none =>
          rw [hfind] at h
          cases h
      | some entry =>
          rw [hfind] at h
          cases h
          obtain ⟨first, hfirst, rfl⟩ := List.mem_map.1 (List.mem_of_find?_eq_some hfind)
          have hnew : name ∉ names := fun hold =>
              hmem ((any_name_ofEntries names name).2 hold)
          have hshort := List.find?_some hfind
          exact .collision (hcapital.2 hempty) hnew hfirst (of_decide_eq_true hshort)
  · intro h
    cases h with
    | noAcronym h =>
        rw [if_pos (not_not.1 (mt hcapital.2 h))]
    | duplicate hcap h =>
        rw [if_neg (hcapital.1 hcap), if_pos ((any_name_ofEntries names name).2 h)]
    | @collision first hcap hnew hfirst h =>
        rw [if_neg (hcapital.1 hcap), if_neg (mt (any_name_ofEntries names name).1 hnew)]
        cases hfind :
            (ofEntries names).entries.find? fun e => e.acronym = acronym name with
        | none =>
            have hfree := (find?_acronym_ofEntries names _).1 hfind
            exact absurd (h ▸ List.mem_map_of_mem hfirst) hfree
        | some entry =>
            obtain ⟨other, hother, rfl⟩ := List.mem_map.1 (List.mem_of_find?_eq_some hfind)
            have hshort := List.find?_some hfind
            have hsame : acronym other = acronym first :=
              Eq.trans (of_decide_eq_true hshort) h.symm
            rw [List.inj_on_of_nodup_map hnodup hother hfirst hsame]
            rfl

/-- A phase after another fails if that one fails, or where that one leads. -/
theorem bind_eq_error_iff
    {ε α β : Type}
    {x : Except ε α}
    {f : α → Except ε β}
    {e : ε} :
    (x >>= f) = .error e ↔
      x = .error e ∨ ∃ a, x = .ok a ∧ f a = .error e := by
  cases x with
  | error e' =>
      simp [bind, Except.bind]
  | ok a =>
      simp [bind, Except.bind]

/-- Names are entered up to the first that cannot be entered, and that is reported. -/
theorem foldlM_insert_eq_error_iff
    {names : List String}
    (hnodup : (names.map acronym).Nodup)
    (rest : List String)
    (e : BuildError) :
    rest.foldlM insert (ofEntries names) = .error e ↔
      ∃ earlier name later, rest = earlier ++ name :: later ∧
        (∀ other ∈ earlier, acronym other ≠ "") ∧
        ((names ++ earlier).map acronym).Nodup ∧
        Offends (names ++ earlier) name e := by
  induction rest generalizing names with
  | nil =>
      rw [List.foldlM_nil]
      constructor
      · intro h
        cases h
      · rintro ⟨earlier, name, later, hsplit, -⟩
        simp at hsplit
  | cons next rest ih =>
      rw [List.foldlM_cons, bind_eq_error_iff, insert_eq_error_iff hnodup]
      constructor
      · rintro (h | ⟨d, hins, h⟩)
        · exact ⟨[], next, rest, rfl, by simp, by simpa using hnodup, by simpa using h⟩
        · obtain ⟨hne, hnew, rfl⟩ := (insert_eq_ok_iff names next d).1 hins
          have hnodup' := nodup_acronyms_concat_iff.2 ⟨hnodup, hnew⟩
          obtain ⟨earlier, name, later, rfl, hall, hdistinct, hoffends⟩ := (ih hnodup').1 h
          exact ⟨next :: earlier, name, later, rfl, by simpa [hne] using hall,
            by simpa using hdistinct, by simpa using hoffends⟩
      · rintro ⟨earlier, name, later, hsplit, hall, hdistinct, hoffends⟩
        cases earlier with
        | nil =>
            obtain ⟨rfl, rfl⟩ := List.cons.inj hsplit
            exact .inl (by simpa using hoffends)
        | cons first earlier =>
            obtain ⟨rfl, rfl⟩ := List.cons.inj hsplit
            have hsplit : (((names ++ [next]) ++ earlier).map acronym).Nodup := by
              simpa using hdistinct
            have hnodup' := hsplit.sublist
                ((List.sublist_append_left _ earlier).map acronym)
            have hnew := (nodup_acronyms_concat_iff.1 hnodup').2
            refine .inr ⟨_, (insert_eq_ok_iff names next _).2
              ⟨hall next (by simp), hnew, rfl⟩, (ih hnodup').2 ?_⟩
            exact ⟨earlier, name, later, rfl, fun other hother =>
              hall other (by simp [hother]),
              hsplit, by simpa using hoffends⟩

/-- What holds of the directory of a list of names. -/
structure Unambiguous (names : List String) : Prop where
  builds_iff : (∃ d, ofNames names = .ok d) ↔ Enterable names
  lookup_iff : ∀ d, ofNames names = .ok d → ∀ token i,
    d.lookup? token = some i ↔ ∃ name, names[i]? = some name ∧ token = acronym name
  resolve_iff : ∀ d, ofNames names = .ok d → ∀ token i,
    d.resolve? token = some i ↔
      ∃ name, names[i]? = some name ∧ (token = acronym name ∨ token = name)
  not_shadowed : ∀ d, ofNames names = .ok d → ∀ i j name,
    names[i]? = some name → d.lookup? name = some j → j = i
  name_first : ∀ d, ofNames names = .ok d → ∀ token,
    (d.findName? token).or (d.lookup? token) = d.resolve? token
  fails_iff : ∀ e, ofNames names = .error e ↔
    ∃ earlier name later, names = earlier ++ name :: later ∧
      Enterable earlier ∧ Offends earlier name e

theorem ofNames_eq_ok_iff_enterable
    (names : List String)
    (d : Directory) :
    ofNames names = .ok d ↔ Enterable names ∧ d = ofEntries names := by
  rw [ofNames_eq_ok_iff]
  constructor
  · rintro ⟨hcapital, hnodup, hd⟩
    exact ⟨⟨hcapital, hnodup⟩, hd⟩
  · rintro ⟨hnames, hd⟩
    exact ⟨hnames.hasCapital, hnames.nodup_acronyms, hd⟩

/-- A directory exists exactly for names that can be entered, it finds a state by its
acronym and its name and by nothing else, and the first name that cannot be entered is
reported. -/
theorem unambiguous (names : List String) : Unambiguous names := by
  have hresolve : ∀ d, ofNames names = .ok d → ∀ token i,
      d.resolve? token = some i ↔
        ∃ name, names[i]? = some name ∧ (token = acronym name ∨ token = name) := by
    intro d hd token i
    obtain ⟨hnames, rfl⟩ := (ofNames_eq_ok_iff_enterable names d).1 hd
    rw [resolve?_ofEntries hnames.nodup_acronyms,
      position?_eq_some_iff hnames.nodup_acronyms]
    simp only [Addresses, eq_comm (b := token)]
  exact {
    builds_iff := by
      simp only [ofNames_eq_ok_iff_enterable]
      constructor
      · rintro ⟨_, hnames, -⟩
        exact hnames
      · intro hnames
        exact ⟨_, hnames, rfl⟩
    lookup_iff := by
      intro d hd token i
      obtain ⟨hnames, rfl⟩ := (ofNames_eq_ok_iff_enterable names d).1 hd
      simp only [lookup?_ofEntries_iff hnames.nodup_acronyms, eq_comm (a := token)]
    resolve_iff := hresolve
    not_shadowed := by
      intro d hd i j name hname hlook
      obtain ⟨hnames, rfl⟩ := (ofNames_eq_ok_iff_enterable names d).1 hd
      exact lookup?_agrees_findName? hnames.nodup_acronyms name hlook
        ((findName?_ofEntries_iff hnames.nodup_acronyms name i).2 ⟨name, hname, rfl⟩)
    name_first := by
      intro d hd token
      obtain ⟨hnames, rfl⟩ := (ofNames_eq_ok_iff_enterable names d).1 hd
      rw [findName?_or_lookup?_ofEntries hnames.nodup_acronyms,
        resolve?_ofEntries hnames.nodup_acronyms]
    fails_iff := by
      intro e
      have hnone : (([] : List String).map acronym).Nodup := List.nodup_nil
      have hfails := foldlM_insert_eq_error_iff hnone names e
      simp only [List.nil_append, acronym_ne_empty_iff] at hfails
      refine hfails.trans ⟨?_, ?_⟩
      · rintro ⟨earlier, name, later, hsplit, hall, hdistinct, hoffends⟩
        exact ⟨earlier, name, later, hsplit, ⟨hall, hdistinct⟩, hoffends⟩
      · rintro ⟨earlier, name, later, hsplit, hearlier, hoffends⟩
        exact ⟨earlier, name, later, hsplit, hearlier.hasCapital, hearlier.nodup_acronyms,
          hoffends⟩ }

end Directory
end Flowchart
