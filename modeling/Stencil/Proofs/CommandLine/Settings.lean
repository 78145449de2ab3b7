import Mathlib.Data.List.Nodup
import Stencil.CommandLine.Answer
import Stencil.Keyed
import Stencil.Proofs.Text.Cutting

/-!
# Flags that are set on their own

A flag with its value attached by an equals sign is an argument on its own, whatever the value is:
it is cut at the first equals sign, of which the name of a flag has none. So arguments that set
flags this way are read back as the flags that they set, in their order, unless a flag comes twice
or has an empty value that it may not have. As the order does not count for what is looked up, each
choice of values is read as the options that hold it.

## Main definitions

* `CommandLine.argument entry`: a flag with its value as one argument
* `CommandLine.IsSetting entry`: a flag that can be set on its own
* `CommandLine.IsFaulty settings`: a flag comes twice or a required one is missing
* `CommandLine.Choice`: values for the flags of a run

## Main results

* `CommandLine.read_argument`: an argument is read as the flag that it sets
* `CommandLine.Given.scan_cases`: arguments that set flags, one after the other
* `CommandLine.Choice.read_of_perm`: a choice is read as its options, in any order
* `CommandLine.answer_arguments`: each choice is read as its options, and a flag that is repeated
  or missing ends the program
-/

namespace Stencil.CommandLine

/-! ## Arguments that set a flag -/

/-- A flag with its value as one argument, or the flag alone if it takes none. -/
def argument (entry : Flag × String) : String :=
  if entry.1.takesValue then "--" ++ entry.1.longName ++ "=" ++ entry.2
  else "--" ++ entry.1.longName

/-- A flag that can be set on its own: it takes a value, or asks for the list of converters. -/
def IsSetting (entry : Flag × String) : Prop :=
  entry.1.takesValue = true ∨ entry = (.listConverters, "")

namespace Flag

/-- A flag is found by its name, in which there is no equals sign, and which is not empty. -/
theorem longName_spec (flag : Flag) :
    ofLongName? flag.longName = some flag ∧ '=' ∉ flag.longName.toList ∧
      flag.longName.toList ≠ [] := by
  cases flag <;> decide

end Flag

/-- **An argument** is read as the flag that it sets, with its value. -/
theorem read_argument {entry : Flag × String} (h : IsSetting entry) :
    Argument.read (argument entry) =
      .ok (.flag entry.1 (if entry.1.takesValue then some entry.2 else none)) := by
  obtain ⟨flag, value⟩ := entry
  rcases h with htakes | heq
  · obtain ⟨hfound, hequals, hne⟩ := flag.longName_spec
    dsimp only at htakes ⊢
    have hchars : (argument (flag, value)).toList =
        '-' :: '-' :: (flag.longName.toList ++ '=' :: value.toList) := by
      simp [argument, htakes]
    obtain ⟨c, rest, hname⟩ := List.exists_cons_of_ne_nil hne
    have hlong : Argument.read (argument (flag, value)) = Argument.readLong (argument (flag, value))
        (flag.longName.toList ++ '=' :: value.toList) := by
      rw [Argument.read, hchars, hname]
      rfl
    rw [hlong, Argument.readLong, Text.cut?_append_cons hequals]
    simp [hfound, htakes]
  · obtain ⟨rfl, rfl⟩ := Prod.mk.inj heq
    rfl

/-! ## Several arguments -/

/-- The value of the flag is one that it may have. -/
def IsAllowed (entry : Flag × String) : Prop := entry.2 ≠ "" ∨ entry.1.allowsEmpty = true

namespace Given

theorem isSome_lookup_iff {given : Given} {flag : Flag} :
    (given.lookup flag).isSome = true ↔ flag ∈ given.map (·.1) := by
  rw [List.lookup_isSome_iff, List.mem_map]
  constructor
  · rintro ⟨entry, hentry, hflag⟩
    exact ⟨entry, hentry, (eq_of_beq hflag).symm⟩
  · rintro ⟨entry, hentry, rfl⟩
    exact ⟨entry, hentry, beq_self_eq_true _⟩

/-- **One more flag** is added unless it is there already or has an empty value that it may not
have. -/
theorem add_cases (given : Given) {entry : Flag × String} (h : IsSetting entry) :
    (entry.1 ∉ given.map (·.1) ∧ IsAllowed entry ∧
        given.add entry.1 entry.2 = .ok (given ++ [entry])) ∨
      ((entry.1 ∈ given.map (·.1) ∨ ¬ IsAllowed entry) ∧
        ∃ fault, given.add entry.1 entry.2 = .error (.mistake fault)) := by
  obtain ⟨flag, value⟩ := entry
  have hadd : given.add flag value =
      if (given.lookup flag).isSome then .error (.mistake (.repeated flag))
      else if value.isEmpty && !flag.allowsEmpty then .error (.mistake (.emptyValue flag))
      else .ok (given ++ [(flag, value)]) := by
    -- The two flags that would end the reading are no settings.
    rcases h with htakes | heq
    · cases flag with
      | help => cases htakes
      | version => cases htakes
      | _ => rfl
    · obtain ⟨rfl, rfl⟩ := Prod.mk.inj heq
      rfl
  have hallowed : (value.isEmpty && !flag.allowsEmpty) = true ↔ ¬ IsAllowed (flag, value) := by
    simp [IsAllowed]
  rw [hadd]
  split_ifs with hthere hempty
  · exact Or.inr ⟨Or.inl (isSome_lookup_iff.mp hthere), _, rfl⟩
  · exact Or.inr ⟨Or.inr (hallowed.mp hempty), _, rfl⟩
  · rw [isSome_lookup_iff] at hthere
    rw [hallowed, not_not] at hempty
    exact Or.inl ⟨hthere, hempty, rfl⟩

/-- An argument that sets a flag adds it before the other arguments are read. -/
theorem scan_argument (given : Given) {entry : Flag × String} (h : IsSetting entry)
    (rest : List String) :
    given.scan (argument entry :: rest) =
      given.add entry.1 entry.2 >>= fun next => next.scan rest := by
  rw [scan.eq_def]
  dsimp only
  rw [read_argument h]
  rcases h with htakes | rfl
  · rw [htakes]
    rfl
  · rfl

/-- **Arguments that set flags** add all of them, unless one comes twice or has an empty value that
it may not have. -/
theorem scan_cases {given : Given} (hgiven : (given.map (·.1)).Nodup) {settings : Given}
    (h : ∀ entry ∈ settings, IsSetting entry) :
    (((given ++ settings).map (·.1)).Nodup ∧ (∀ entry ∈ settings, IsAllowed entry) ∧
        given.scan (settings.map argument) = .ok (given ++ settings)) ∨
      ((¬ ((given ++ settings).map (·.1)).Nodup ∨ ∃ entry ∈ settings, ¬ IsAllowed entry) ∧
        ∃ fault, given.scan (settings.map argument) = .error (.mistake fault)) := by
  -- Induction on the arguments that are still to be read; the flags before them differ.
  induction settings generalizing given with
  | nil =>
    refine Or.inl ⟨?_, by simp, ?_⟩
    · rwa [List.append_nil]
    · rw [List.append_nil]
      rfl
  | cons entry settings ih =>
    obtain ⟨hentry, hothers⟩ := List.forall_mem_cons.mp h
    rw [List.map_cons, scan_argument given hentry, List.append_cons]
    rcases given.add_cases hentry with ⟨hnew, hallowed, hadd⟩ | ⟨hbad, fault, hadd⟩
    · -- The flag is added, and the others are read with it.
      have hnext : ((given ++ [entry]).map (·.1)).Nodup := by
        rw [List.map_append, List.map_singleton, ← List.concat_eq_append]
        exact hgiven.concat hnew
      rw [hadd]
      rcases ih hnext hothers with ⟨hnodup, hall, hscan⟩ | ⟨hwrong, fault, hscan⟩
      · exact Or.inl ⟨hnodup, List.forall_mem_cons.mpr ⟨hallowed, hall⟩, hscan⟩
      · refine Or.inr ⟨?_, fault, hscan⟩
        rcases hwrong with hrepeated | ⟨other, hother, hempty⟩
        · exact Or.inl hrepeated
        · exact Or.inr ⟨other, List.mem_cons_of_mem _ hother, hempty⟩
    · -- The flag ends the reading.
      rw [hadd]
      refine Or.inr ⟨?_, fault, rfl⟩
      rcases hbad with hthere | hempty
      · left
        intro hnodup
        rw [List.map_append, List.map_append, List.append_assoc] at hnodup
        exact (List.nodup_append.mp hnodup).2.2 _ hthere _ (by simp) rfl
      · exact Or.inr ⟨entry, List.mem_cons_self, hempty⟩

end Given

/-- **What arguments that set flags ask for**: what these flags give, unless one comes twice or has
an empty value that it may not have. -/
theorem read_arguments {settings : Given} (h : ∀ entry ∈ settings, IsSetting entry) :
    ((settings.map (·.1)).Nodup ∧ (∀ entry ∈ settings, IsAllowed entry) ∧
        Request.read (settings.map argument) = Request.ofGiven settings) ∨
      ((¬ (settings.map (·.1)).Nodup ∨ ∃ entry ∈ settings, ¬ IsAllowed entry) ∧
        ∃ fault, Request.read (settings.map argument) = .error fault) := by
  have hempty : (([] : Given).map (·.1)).Nodup := List.nodup_nil
  rcases Given.scan_cases hempty h with ⟨hnodup, hallowed, hscan⟩ | ⟨hwrong, fault, hscan⟩
  · left
    refine ⟨hnodup, hallowed, ?_⟩
    rw [Request.read, hscan]
    rfl
  · right
    refine ⟨hwrong, fault, ?_⟩
    rw [Request.read, hscan]

/-! ## Missing flags -/

/-- A required flag that is missing is reported, if the converters are not asked for. -/
theorem ofGiven_of_missing {given : Given} (hlist : .listConverters ∉ given.map (·.1))
    {flag : Flag} (hflag : flag ∈ Request.requiredFlags) (hmissing : flag ∉ given.map (·.1)) :
    ∃ flags, Request.ofGiven given = .error (.required flags) := by
  have hnone {other : Flag} (hother : other ∉ given.map (·.1)) : given.get? other = none := by
    rw [← Given.isSome_lookup_iff, Option.not_isSome_iff_eq_none] at hother
    exact hother
  have hoptions : Request.options? given = none := by
    have hget := hnone hmissing
    simp only [Request.requiredFlags, List.mem_cons, List.not_mem_nil, or_false] at hflag
    rcases hflag with rfl | rfl | rfl
    all_goals simp [Request.options?, hget]
  rw [Request.ofGiven, hnone hlist, hoptions]
  exact ⟨_, rfl⟩

/-- The arguments repeat a flag, or leave out a required one without asking for the converters. -/
def IsFaulty (settings : Given) : Prop :=
  ¬ (settings.map (·.1)).Nodup ∨
    (.listConverters ∉ settings.map (·.1) ∧
      ∃ flag ∈ Request.requiredFlags, flag ∉ settings.map (·.1))

/-- Arguments that repeat a flag or leave out a required one are a mistake. -/
theorem read_of_isFaulty {settings : Given} (h : ∀ entry ∈ settings, IsSetting entry)
    (hfaulty : IsFaulty settings) :
    ∃ fault, Request.read (settings.map argument) = .error fault := by
  rcases read_arguments h with ⟨hnodup, -, hread⟩ | ⟨-, hfault⟩
  · rcases hfaulty with hrepeated | ⟨hlist, flag, hflag, hmissing⟩
    · exact absurd hnodup hrepeated
    · obtain ⟨flags, hgiven⟩ := ofGiven_of_missing hlist hflag hmissing
      exact ⟨.required flags, hread.trans hgiven⟩
  · exact hfault

/-! ## Choices -/

/-- Values for the flags of a run: the required ones, and any of the others. -/
structure Choice where
  input : String
  outputFolder : String
  nameSpace : String
  model : Option String := none
  username : Option String := none
  password : Option String := none
  outputPrefix : Option String := none
  singleFile : Option String := none
  templatePrefix : Option String := none
  templateFolder : Option String := none
  outputFolder_ne : outputFolder ≠ ""
  templateFolder_ne : templateFolder ≠ some ""

namespace Choice

/-- The value of a flag. -/
def value? (choice : Choice) : Flag → Option String
  | .input => some choice.input
  | .output => some choice.outputFolder
  | .nameSpace => some choice.nameSpace
  | .model => choice.model
  | .username => choice.username
  | .password => choice.password
  | .outputPrefix => choice.outputPrefix
  | .singleFile => choice.singleFile
  | .templatePrefix => choice.templatePrefix
  | .templateFolder => choice.templateFolder
  | .listConverters | .help | .version => none

/-- The flags that have a value, with their values. -/
def given (choice : Choice) : Given :=
  Flag.all.filterMap fun flag => (choice.value? flag).map (flag, ·)

/-- The options with the values of the choice, and with what holds otherwise. -/
def options (choice : Choice) : Options where
  input := choice.input
  nameSpace := choice.nameSpace
  outputFolder := choice.outputFolder
  username := choice.username
  password := choice.password
  converter := choice.model.getD "c#"
  outputPrefix := choice.outputPrefix.getD ""
  singleFileName := choice.singleFile
  templatePrefix := choice.templatePrefix.getD ""
  templateFolder := choice.templateFolder.getD "Templates"

variable {choice : Choice} {settings : Given}

theorem mem_given_iff {flag : Flag} {value : String} :
    (flag, value) ∈ choice.given ↔ choice.value? flag = some value := by
  have hall : flag ∈ Flag.all := by cases flag <;> decide
  simp only [given, List.mem_filterMap, Option.map_eq_some_iff, Prod.mk.injEq]
  constructor
  · rintro ⟨other, -, found, hfound, rfl, rfl⟩
    exact hfound
  · intro hvalue
    exact ⟨flag, hall, value, hvalue, rfl, rfl⟩

/-- Each flag has one value. -/
theorem nodup_given (choice : Choice) : (choice.given.map (·.1)).Nodup := by
  rw [given, List.map_filterMap]
  apply List.Nodup.filterMap ?_ (by decide)
  intro flag other found hflag hother
  simp only [Option.map_map, Option.mem_def, Option.map_eq_some_iff] at hflag hother
  obtain ⟨_, _, rfl⟩ := hflag
  obtain ⟨_, _, rfl⟩ := hother
  rfl

/-- A flag that has a value can be set on its own, and may have this value. -/
theorem isSetting_isAllowed {entry : Flag × String} (h : entry ∈ choice.given) :
    IsSetting entry ∧ IsAllowed entry := by
  obtain ⟨flag, value⟩ := entry
  rw [mem_given_iff] at h
  have htakes : flag.takesValue = true := by
    cases flag with
    | listConverters => cases h
    | help => cases h
    | version => cases h
    | _ => rfl
  refine ⟨Or.inl htakes, ?_⟩
  by_cases hempty : flag.allowsEmpty = true
  · exact Or.inr hempty
  · -- The two flags whose values are not empty.
    left
    rintro rfl
    cases flag with
    | output => exact choice.outputFolder_ne (Option.some.inj h)
    | templateFolder => exact choice.templateFolder_ne h
    | _ => exact hempty rfl

/-- In any order each flag has its value. -/
theorem get?_of_perm (h : settings.Perm choice.given) (flag : Flag) :
    settings.get? flag = choice.value? flag := by
  have hnodup : (settings.map (·.1)).Nodup := (h.map _).nodup_iff.mpr choice.nodup_given
  have hmem (value : String) : (flag, value) ∈ settings ↔ choice.value? flag = some value :=
    h.mem_iff.trans mem_given_iff
  apply Option.ext
  intro value
  rw [← hmem]
  exact ⟨mem_of_lookup_eq_some, lookup_eq_some_of_mem hnodup⟩

/-- **A choice** is read as its options, in whichever order its flags are set. -/
theorem read_of_perm (h : settings.Perm choice.given) :
    Request.read (settings.map argument) = .ok (.generate choice.options) := by
  have hentries (entry : Flag × String) (hentry : entry ∈ settings) :=
    isSetting_isAllowed (h.mem_iff.mp hentry)
  have hgiven : Request.ofGiven settings = .ok (.generate choice.options) := by
    rw [Request.ofGiven]
    simp only [Request.options?, get?_of_perm h]
    rfl
  rcases read_arguments fun entry hentry => (hentries entry hentry).1 with
    ⟨-, -, hread⟩ | ⟨hwrong, -⟩
  · exact hread.trans hgiven
  · rcases hwrong with hrepeated | ⟨entry, hentry, hempty⟩
    · exact absurd ((h.map _).nodup_iff.mpr choice.nodup_given) hrepeated
    · exact absurd (hentries entry hentry).2 hempty

end Choice

/-! ## What the program does -/

/-- **Arguments that set flags.** Each choice of values is read as the options with these values,
whichever the order of its flags, and the program answers as the run with these options ends. Where
a flag is repeated or a required one is missing there is no run, and the program ends with exit code
2 and something written to the errors, in whatever words. -/
theorem answer_arguments :
    (∀ (choice : Choice) (settings : Given), settings.Perm choice.given →
        Request.read (settings.map argument) = .ok (.generate choice.options) ∧
          ∀ (m : Type → Type) [Monad m] (environment : Environment m) (wording : Wording),
            answer environment (settings.map argument) wording = do
              return Answer.ofRun choice.options
                (← (generate environment .builtin choice.options).run)) ∧
      ∀ settings : Given, (∀ entry ∈ settings, IsSetting entry) → IsFaulty settings →
        (∃ fault : UsageFault, Request.read (settings.map argument) = .error fault) ∧
          ∀ wording : Wording, ∃ errors, errors ≠ "" ∧
            ∀ (m : Type → Type) [Monad m] (environment : Environment m),
              answer environment (settings.map argument) wording = return ⟨2, "", errors⟩ := by
  constructor
  · intro choice settings hperm
    have hread := Choice.read_of_perm hperm
    refine ⟨hread, ?_⟩
    intro m _ environment wording
    rw [answer, hread]
  · intro settings hsettings hfaulty
    obtain ⟨fault, hread⟩ := read_of_isFaulty hsettings hfaulty
    refine ⟨⟨fault, hread⟩, fun wording => ?_⟩
    refine ⟨wording.mistake fault, wording.mistake_ne_empty fault, ?_⟩
    intro m _ environment
    rw [answer, hread]

/-- A choice with values that look like flags, are empty, or contain an equals sign. -/
def oddChoice : Choice where
  input := "-"
  outputFolder := "a=b"
  nameSpace := ""
  username := some ""
  singleFile := some "--help"
  templatePrefix := some "="
  outputFolder_ne := by decide
  templateFolder_ne := by decide

/-- All required flags, and one of them twice. -/
def twoInputs : Given := [(.input, "a"), (.output, "out"), (.nameSpace, ""), (.input, "b")]

/-- The flags without the folder for the output. -/
def noOutput : Given := [(.input, "a"), (.nameSpace, "Pets"), (.model, "typescript")]

/-- The choice is read from its last flag to its first; two inputs are one too many, and the output
may not be left out. -/
theorem answer_arguments_odd :
    oddChoice.given.reverse.Perm oddChoice.given ∧
      Request.read ["--template-prefix==", "--single-file=--help", "--username=", "--namespace=",
          "--output=a=b", "--input=-"] =
        .ok (.generate {
          input := "-", outputFolder := "a=b", nameSpace := "", username := some "",
          singleFileName := some "--help", templatePrefix := "=" }) ∧
      (∀ settings ∈ [twoInputs, noOutput], (∀ entry ∈ settings, IsSetting entry) ∧
        IsFaulty settings ∧ (∃ fault, Request.read (settings.map argument) = .error fault) ∧
        ∃ errors, errors ≠ "" ∧ ∀ environment : Environment (StateM Storage),
          answer environment (settings.map argument) = return ⟨2, "", errors⟩) := by
  have hperm : oddChoice.given.reverse.Perm oddChoice.given := List.reverse_perm _
  refine ⟨hperm, (answer_arguments.1 oddChoice _ hperm).1, ?_⟩
  intro settings hmem
  have hsettings : ∀ entry ∈ settings, IsSetting entry := by
    have htakes : ∀ given ∈ [twoInputs, noOutput], ∀ entry ∈ given,
        entry.1.takesValue = true := by decide
    intro entry hentry
    exact Or.inl (htakes settings hmem entry hentry)
  have hfaulty : IsFaulty settings := by
    rcases List.mem_pair.mp hmem with rfl | rfl
    · exact Or.inl (by decide)
    · exact Or.inr ⟨by decide, .output, by decide, by decide⟩
  obtain ⟨hread, hanswer⟩ := answer_arguments.2 settings hsettings hfaulty
  obtain ⟨errors, hne, hends⟩ := hanswer .plain
  exact ⟨hsettings, hfaulty, hread, errors, hne, hends (StateM Storage)⟩

end Stencil.CommandLine
