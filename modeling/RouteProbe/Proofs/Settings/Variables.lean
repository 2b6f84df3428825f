import RouteProbe.Proofs.NamedLists
import RouteProbe.Settings.Environment

/-! # Environments of texts

As far as names and values are texts, an environment is a list of named texts, and looking a
variable up is looking it up there. Reading a file of variables adds texts only, each under a name
of its own.
-/

namespace RouteProbe.Environment

variable {environment others : Environment} {entry : OsText × OsText} {name value : String}
  {named : List (String × String)}

/-- Whether both the name and the value of a variable are texts. -/
def IsText (entry : OsText × OsText) : Prop := entry.1.text?.isSome ∧ entry.2.text?.isSome

instance (entry : OsText × OsText) : Decidable (IsText entry) :=
  inferInstanceAs (Decidable (_ ∧ _))

def IsUnicode (environment : Environment) : Prop := ∀ entry ∈ environment, IsText entry

instance (environment : Environment) : Decidable environment.IsUnicode :=
  inferInstanceAs (Decidable (∀ entry ∈ environment, IsText entry))

/-- Whether all variables have different names. -/
def Distinct (environment : Environment) : Prop := (environment.map Prod.fst).Nodup

instance (environment : Environment) : Decidable environment.Distinct :=
  inferInstanceAs (Decidable (environment.map Prod.fst).Nodup)

/-- The environment that has just these variables. -/
def ofTexts (named : List (String × String)) : Environment :=
  named.map fun entry => (.text entry.1, .text entry.2)

theorem isText_iff : IsText entry ↔ ∃ name value : String, entry = (.text name, .text value) := by
  obtain ⟨_ | _, _ | _⟩ := entry <;> simp [IsText, OsText.text?]

theorem isUnicode_ofTexts : (ofTexts named).IsUnicode :=
  List.forall_mem_map.mpr fun entry _ => isText_iff.mpr ⟨entry.1, entry.2, rfl⟩

theorem isUnicode_iff : environment.IsUnicode ↔ ∃ named, environment = ofTexts named := by
  constructor
  · intro unicode
    induction environment with
    | nil => exact ⟨[], rfl⟩
    | cons entry rest ih =>
      obtain ⟨isText, later⟩ := List.forall_mem_cons.mp unicode
      obtain ⟨name, value, rfl⟩ := isText_iff.mp isText
      obtain ⟨named, rfl⟩ := ih later
      exact ⟨(name, value) :: named, rfl⟩
  · rintro ⟨named, rfl⟩
    exact isUnicode_ofTexts

theorem IsUnicode.sublist (unicode : environment.IsUnicode) (kept : others.Sublist environment) :
    others.IsUnicode :=
  fun entry member => unicode entry (kept.subset member)

/-! ### The texts in front -/

@[simp] theorem texts_ofTexts : (ofTexts named).texts = (named, true) := by
  induction named with
  | nil => rfl
  | cons entry rest ih =>
    change ((entry.1, entry.2) :: (ofTexts rest).texts.1, (ofTexts rest).texts.2) = _
    rw [ih]

theorem texts_append (broken : ¬ IsText entry) (rest : Environment) :
    (ofTexts named ++ entry :: rest).texts = (named, false) := by
  induction named with
  | nil =>
    obtain ⟨_ | _, _ | _⟩ := entry
    · exact absurd (isText_iff.mpr ⟨_, _, rfl⟩) broken
    all_goals rfl
  | cons first named ih =>
    change ((first.1, first.2) :: (ofTexts named ++ entry :: rest).texts.1,
      (ofTexts named ++ entry :: rest).texts.2) = _
    rw [ih]

theorem exists_first_of_not_isUnicode (broken : ¬ environment.IsUnicode) :
    ∃ named entry rest, environment = ofTexts named ++ entry :: rest ∧ ¬ IsText entry := by
  induction environment with
  | nil => exact absurd (by simp [IsUnicode]) broken
  | cons first rest ih =>
    by_cases isText : IsText first
    · obtain ⟨name, value, rfl⟩ := isText_iff.mp isText
      have later : ¬ IsUnicode rest := fun unicode =>
        broken (List.forall_mem_cons.mpr ⟨isText, unicode⟩)
      obtain ⟨named, entry, after, rfl, brokenToo⟩ := ih later
      exact ⟨(name, value) :: named, entry, after, rfl, brokenToo⟩
    · exact ⟨[], first, rest, rfl, isText⟩

/-! ### Values -/

@[simp] theorem value?_ofTexts : (ofTexts named).value? name = named.lookup name := by
  induction named with
  | nil => rfl
  | cons entry rest ih =>
    unfold value? ofTexts at ih ⊢
    rw [List.map_cons, List.lookup_cons, List.lookup_cons]
    by_cases same : name = entry.1
    · simp [same, OsText.text?]
    · have apart : OsText.text name ≠ .text entry.1 := same ∘ OsText.text.inj
      rw [beq_false_of_ne same, beq_false_of_ne apart]
      exact ih

theorem distinct_ofTexts_iff : (ofTexts named).Distinct ↔ (named.map (·.1)).Nodup := by
  have names : (ofTexts named).map Prod.fst = (named.map (·.1)).map OsText.text := by
    simp [ofTexts]
  rw [Distinct, names, List.nodup_map_iff (fun _ _ => OsText.text.inj)]

theorem Distinct.sublist (distinct : environment.Distinct) (kept : others.Sublist environment) :
    others.Distinct :=
  List.Nodup.sublist (kept.map Prod.fst) distinct

theorem Distinct.perm (distinct : environment.Distinct) (permuted : others.Perm environment) :
    others.Distinct :=
  (permuted.map Prod.fst).nodup_iff.mpr distinct

/-! ### Files of variables -/

theorem map_fst_set : (environment.set name value).map Prod.fst =
    if .text name ∈ environment.map Prod.fst then environment.map Prod.fst
    else environment.map Prod.fst ++ [.text name] := by
  induction environment with
  | nil => rfl
  | cons entry rest ih =>
    obtain ⟨other, old⟩ := entry
    by_cases same : other = .text name
    · simp [set, same]
    · rw [set, if_neg same, List.map_cons, ih]
      have apart : .text name ≠ other := Ne.symm same
      by_cases listed : .text name ∈ rest.map Prod.fst <;> simp [apart, listed]

theorem Distinct.set (distinct : environment.Distinct) : (environment.set name value).Distinct := by
  rw [Distinct, map_fst_set]
  split
  · exact distinct
  next fresh =>
    refine List.nodup_append.mpr ⟨distinct, List.nodup_singleton _, fun other listed last single => ?_⟩
    obtain rfl := List.mem_singleton.mp single
    exact fun same => fresh (same ▸ listed)

theorem IsUnicode.set (unicode : environment.IsUnicode) : (environment.set name value).IsUnicode := by
  induction environment with
  | nil => exact @isUnicode_ofTexts [(name, value)]
  | cons entry rest ih =>
    obtain ⟨other, old⟩ := entry
    obtain ⟨⟨named, _⟩, later⟩ := List.forall_mem_cons.mp unicode
    rw [Environment.set]
    split
    · exact List.forall_mem_cons.mpr ⟨⟨named, rfl⟩, later⟩
    · exact List.forall_mem_cons.mpr ⟨unicode _ List.mem_cons_self, ih later⟩

/-- What every change of one variable keeps, a file of variables keeps. -/
theorem addLines_induction {keeps : Environment → Prop}
    (set : ∀ environment name value, keeps environment → keeps (environment.set name value))
    (kept : keeps environment) (lines : List String) : keeps (environment.addLines lines).1 := by
  induction lines generalizing environment with
  | nil => exact kept
  | cons line rest ih =>
    unfold addLines
    split
    · exact ih kept
    next name value _ =>
      refine ih ?_
      unfold add
      split
      · exact kept
      · exact set environment name value kept
    · exact kept

theorem Distinct.addFile (distinct : environment.Distinct) (content : String) :
    (environment.addFile content).1.Distinct :=
  addLines_induction (fun _ _ _ => Distinct.set) distinct _

theorem IsUnicode.addFile (unicode : environment.IsUnicode) (content : String) :
    (environment.addFile content).1.IsUnicode :=
  addLines_induction (fun _ _ _ => IsUnicode.set) unicode _

end RouteProbe.Environment
