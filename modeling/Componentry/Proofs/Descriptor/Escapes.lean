import Componentry.Proofs.Descriptor.Definitions
import Componentry.Proofs.Tables

/-
  Values written out and read back.

  A value is written with every dollar sign doubled, one line
  for each key.  Marking takes the doubled dollar signs back
  one by one, so no reference is left and the value is read as
  it was, except that U+0000 is taken for a dollar sign that
  was marked.

  Main declarations:
    * `doubled`, `fieldText`
    * `markDollars_doubled`, `expand_doubled`
    * `run_fieldLines`
    * `IsWritable`, `IsRecovered`, `parse_fieldText`
-/

------------------------------------------------------------
-- Doubled Dollar Signs
------------------------------------------------------------

namespace Componentry

namespace Descriptor

/- A text with two dollar signs for each. -/
def doubled (cs : List Char) : List Char :=
  cs.flatMap fun c => if c = '$' then ['$', '$'] else [c]

theorem doubled_dollar
    (cs : List Char) :
    doubled ('$' :: cs) = '$' :: '$' :: doubled cs :=
  rfl

theorem doubled_cons
    {c : Char}
    (hOther : c ≠ '$')
    (cs : List Char) :
    doubled (c :: cs) = c :: doubled cs := by
  rw [doubled, List.flatMap_cons, if_neg hOther]
  rfl

theorem mem_doubled
    {c : Char}
    {cs : List Char} :
    c ∈ doubled cs ↔ c ∈ cs := by
  rw [doubled, List.mem_flatMap]
  constructor
  · rintro ⟨d, hMember, hChar⟩
    split at hChar
    · next hDollar =>
        simp only [List.mem_cons, List.not_mem_nil, or_false,
          or_self] at hChar
        rwa [hChar, ← hDollar]
    · rwa [List.mem_singleton.mp hChar]
  · intro hMember
    refine ⟨c, hMember, ?_⟩
    split
    · next hDollar =>
        rw [hDollar]
        exact List.mem_cons_self
    · exact List.mem_singleton_self c

/- A text starts and ends as it did. -/
theorem head?_doubled
    (cs : List Char) :
    (doubled cs).head? = cs.head? := by
  cases cs with
  | nil => rfl
  | cons c cs =>
      by_cases hDollar : c = '$'
      · rw [hDollar, doubled_dollar]
        rfl
      · rw [doubled_cons hDollar]
        rfl

theorem getLast?_doubled
    (cs : List Char) :
    (doubled cs).getLast? = cs.getLast? := by
  rcases List.eq_nil_or_concat' cs with
    rfl | ⟨before, last, rfl⟩
  · rfl
  · rw [doubled, List.flatMap_append, List.flatMap_singleton,
      List.getLast?_concat]
    split
    · next hDollar =>
        rw [List.getLast?_append_of_ne_nil _ (by simp),
          hDollar]
        rfl
    · exact List.getLast?_concat

/- So a line can hold it if it could hold the text. -/
theorem isPlainValue_doubled
    {value : List Char}
    (hValue : IsPlainValue value) :
    IsPlainValue (doubled value) where
  uncommented := by
    rw [mem_doubled]
    exact hValue.uncommented
  oneLine := by
    rw [mem_doubled]
    exact hValue.oneLine
  trimmed :=
    { head := by
        rw [head?_doubled]
        exact hValue.trimmed.head
      last := by
        rw [getLast?_doubled]
        exact hValue.trimmed.last }

/- One mark comes from each dollar sign. -/
theorem markDollars_doubled
    (cs : List Char) :
    markDollars (doubled cs) =
      cs.map fun c => if c = '$' then mark else c := by
  induction cs with
  | nil => rfl
  | cons c cs ih =>
      by_cases hDollar : c = '$'
      · rw [hDollar, doubled_dollar, markDollars, ih]
        rfl
      · rw [doubled_cons hDollar,
          markDollars_copied fun hSame => hDollar hSame.1, ih,
          List.map_cons, if_neg hDollar]

/- Dollar signs that were marked are changed back. -/
theorem restoreDollars_marked
    (cs : List Char) :
    restoreDollars
        (cs.map fun c => if c = '$' then mark else c) =
      restoreDollars cs := by
  unfold restoreDollars
  rw [List.map_map]
  apply List.map_congr_left
  intro c hMember
  by_cases hDollar : c = '$'
  · subst hDollar
    rfl
  · rw [Function.comp_apply, if_neg hDollar]

/- No reference is left, so no variable is asked for. -/
theorem expand_doubled
    (defined : Fields)
    (cs : List Char) :
    expand defined (doubled cs) =
      .ok (String.ofList (restoreDollars cs)) := by
  have hPlain :
      '$' ∉ cs.map fun c => if c = '$' then mark else c := by
    rw [List.mem_map]
    rintro ⟨c, -, hDollar⟩
    split at hDollar
    · revert hDollar
      decide
    · next hOther => exact hOther hDollar
  rw [expand, markDollars_doubled, substitute_plain hPlain]
  change Except.ok (String.ofList (restoreDollars _)) = _
  rw [restoreDollars_marked]

end Descriptor

end Componentry

------------------------------------------------------------
-- Lines of Fields
------------------------------------------------------------

namespace Componentry

namespace Descriptor

/- A value as it is written. -/
def written (value : String) : String :=
  String.ofList (doubled value.toList)

/- The line that gives a key its value. -/
def fieldLine (entry : String × String) : String :=
  definition entry.1 (written entry.2)

/- The text with a line for every field. -/
def fieldText (entries : List (String × String)) : String :=
  Text.unlines (entries.map fieldLine)

/- The value that a written one is read as. -/
def readBack (value : String) : String :=
  value.map fun c => if c = mark then '$' else c

/- A field that a line can give. -/
structure IsWritable (entry : String × String) : Prop where
  key : isKey entry.1.toList = true
  value : IsPlainValue entry.2.toList

instance
    (entry : String × String) :
    Decidable (IsWritable entry) :=
  decidable_of_iff
    (isKey entry.1.toList = true ∧
      IsPlainValue entry.2.toList)
    ⟨fun h => ⟨h.1, h.2⟩, fun h => ⟨h.key, h.value⟩⟩

variable {entry : String × String}
variable {entries : List (String × String)}

theorem readBack_eq
    (value : String) :
    readBack value =
      String.ofList (restoreDollars value.toList) := by
  rw [← String.toList_inj, String.toList_ofList, readBack,
    String.toList_map, restoreDollars]

/- Values without the mark are read as they were. -/
theorem readBack_eq_self_iff
    {value : String} :
    readBack value = value ↔ mark ∉ value.toList := by
  rw [readBack_eq, ← String.toList_inj, String.toList_ofList]
  constructor
  · intro hSame
    rw [← hSame]
    exact mark_not_mem_restoreDollars value.toList
  · exact restoreDollars_unmarked

theorem isPlainValue_written
    (hEntry : IsWritable entry) :
    IsPlainValue (written entry.2).toList := by
  rw [written, String.toList_ofList]
  exact isPlainValue_doubled hEntry.value

/- A line of a field gives its key the value read back. -/
theorem add_fieldLine
    (hEntry : IsWritable entry)
    (reading : Reading) :
    reading.add (fieldLine entry).toList =
      .ok
        ⟨reading.defined.insert entry.1 (readBack entry.2),
          reading.fields.insert entry.1
            (readBack entry.2)⟩ := by
  rw [fieldLine,
    add_definition hEntry.key (isPlainValue_written hEntry),
    written, String.toList_ofList, expand_doubled,
    readBack_eq]

/- The lines of a text are those of its fields. -/
theorem lines_fieldText
    (hEntries : ∀ entry ∈ entries, IsWritable entry) :
    Text.lines (fieldText entries).toList =
      entries.map fun entry =>
        Text.dropReturn (fieldLine entry).toList := by
  have hLines :
      ∀ line ∈ entries.map fieldLine, '\n' ∉ line.toList := by
    rw [List.forall_mem_map]
    intro entry hMember
    exact
      newline_not_mem_definition (hEntries entry hMember).key
        (isPlainValue_written (hEntries entry hMember))
  rw [fieldText, Text.lines_unlines hLines, List.map_map]
  rfl

/- All keys are given the values read back, in order. -/
theorem run_fieldLines
    (hEntries : ∀ entry ∈ entries, IsWritable entry)
    (reading : Reading)
    (number : Nat) :
    ∃ defined,
      foldNumbered Reading.add reading number
          (entries.map fun entry =>
            Text.dropReturn (fieldLine entry).toList) =
        .ok
          ⟨defined,
            entries.foldl
              (fun fields entry =>
                fields.insert entry.1 (readBack entry.2))
              reading.fields⟩ := by
  -- Any fields may have been read before, and any variables
  -- been defined: a doubled value does not ask for them.
  induction entries generalizing reading number with
  | nil => exact ⟨reading.defined, rfl⟩
  | cons entry entries ih =>
      rw [List.forall_mem_cons] at hEntries
      rw [List.map_cons, foldNumbered, add_dropReturn,
        add_fieldLine hEntries.1]
      exact ih hEntries.2 _ (number + 1)

end Descriptor

end Componentry

------------------------------------------------------------
-- Fields Read Back
------------------------------------------------------------

namespace Componentry

namespace Descriptor

variable {fields : Fields}
variable {entries : List (String × String)}

/- The fields that a text of given fields is read as. -/
def recovered (entries : List (String × String)) : Fields :=
  entries.foldl
    (fun fields entry =>
      fields.insert entry.1 (readBack entry.2))
    ∅

/- Each key is found with its value read back. -/
theorem getElem?_recovered
    (hEntries : entries.Perm fields.toList)
    (key : String) :
    (recovered entries)[key]? =
      (fields[key]?).map readBack := by
  have hNames : (entries.map (·.1)).Nodup := by
    rw [(hEntries.map _).nodup_iff,
      Std.ExtTreeMap.map_fst_toList_eq_keys]
    exact fields.nodup_keys
  apply Option.ext
  intro value
  rw [recovered, ByName.getElem?_foldl_put_iff hNames,
    Option.map_eq_some_iff]
  constructor
  · rintro ⟨⟨_, found⟩, hMember, rfl, rfl⟩
    rw [hEntries.mem_iff,
      Std.ExtTreeMap.mem_toList_iff_getElem?_eq_some]
      at hMember
    exact ⟨found, hMember, rfl⟩
  · rintro ⟨found, hFound, rfl⟩
    refine ⟨(key, found), ?_, rfl, rfl⟩
    rwa [hEntries.mem_iff,
      Std.ExtTreeMap.mem_toList_iff_getElem?_eq_some]

variable (name : String) (path : Path)

/- So the text with a line for every field is parsed. -/
theorem parse_fieldText
    (hEntries : ∀ entry ∈ entries, IsWritable entry) :
    parse name path (fieldText entries) =
      .ok ⟨name, path, recovered entries⟩ := by
  rcases run_fieldLines hEntries ⟨∅, ∅⟩ 1 with
    ⟨defined, hRun⟩
  rw [parse_eq_ok_iff]
  refine ⟨⟨defined, recovered entries⟩, ?_, rfl⟩
  rw [lines_fieldText hEntries]
  exact hRun

/-
  A text with a line for every field is parsed to a record
  with the same keys, whose values are the ones written but
  for marks that have become dollar signs.  So it is the same
  record exactly if no value had a mark.
-/
structure IsRecovered
    (fields : Fields)
    (text : String) : Prop where
  parsed :
    ∃ found : Fields,
      parse name path text = .ok ⟨name, path, found⟩ ∧
        ∀ key : String,
          found[key]? = (fields[key]?).map readBack
  exact :
    parse name path text = .ok ⟨name, path, fields⟩ ↔
      ∀ key value : String,
        fields[key]? = some value → mark ∉ value.toList

/-
  Fields that lines can give, written out in any order, are
  read back.
-/
theorem fieldText_isRecovered
    (hFields : ∀ entry ∈ fields.toList, IsWritable entry)
    (hEntries : entries.Perm fields.toList) :
    IsRecovered name path fields (fieldText entries) := by
  have hParsed :
      parse name path (fieldText entries) =
        .ok ⟨name, path, recovered entries⟩ := by
    apply parse_fieldText
    intro entry hMember
    exact hFields entry (hEntries.mem_iff.mp hMember)
  have hFound := getElem?_recovered hEntries
  refine ⟨⟨recovered entries, hParsed, hFound⟩, ?_⟩
  have hSame :
      recovered entries = fields ↔
        ∀ key : String,
          (fields[key]?).map readBack = fields[key]? := by
    rw [Std.ExtTreeMap.ext_getElem?_iff]
    simp only [hFound]
  rw [hParsed, Except.ok.injEq, Descriptor.mk.injEq]
  simp only [true_and, hSame]
  constructor
  · intro hAll key value hValue
    have hKey := hAll key
    rw [hValue, Option.map_some, Option.some.injEq] at hKey
    exact readBack_eq_self_iff.mp hKey
  · intro hNone key
    cases hValue : fields[key]? with
    | none => rfl
    | some value =>
        rw [Option.map_some,
          readBack_eq_self_iff.mpr (hNone key value hValue)]

/- Dollar signs, braces and separators, in another order. -/
def sampleEntries : List (String × String) :=
  [("prefix", "$$$\x7ba\x7d"), ("été.2", "= x:$"), ("a", "")]

theorem sampleEntries_isRecovered :
    let fields : Fields := Std.ExtTreeMap.ofList sampleEntries
    (∀ entry ∈ fields.toList, IsWritable entry) ∧
      sampleEntries.Perm fields.toList ∧
      IsRecovered "rec" ⟨"rec.pc"⟩ fields
        (fieldText sampleEntries) := by
  have hFields :
      ∀ entry ∈ (Std.ExtTreeMap.ofList sampleEntries).toList,
        IsWritable entry := by
    decide +kernel
  have hEntries :
      sampleEntries.Perm
        (Std.ExtTreeMap.ofList sampleEntries).toList := by
    decide +kernel
  exact
    ⟨hFields, hEntries,
      fieldText_isRecovered "rec" ⟨"rec.pc"⟩ hFields
        hEntries⟩

/- A mark in a value is read as a dollar sign. -/
theorem marked_not_recovered :
    let fields : Fields := Std.ExtTreeMap.ofList [("a", "x\x00y")]
    (∀ entry ∈ fields.toList, IsWritable entry) ∧
      fieldText fields.toList = "a=x\x00y\n" ∧
      parse "rec" ⟨"rec.pc"⟩ (fieldText fields.toList) ≠
        .ok ⟨"rec", ⟨"rec.pc"⟩, fields⟩ ∧
      parse "rec" ⟨"rec.pc"⟩ (fieldText fields.toList) =
        .ok
          ⟨"rec", ⟨"rec.pc"⟩,
            Std.ExtTreeMap.ofList [("a", "x$y")]⟩ := by
  decide +kernel

end Descriptor

end Componentry
