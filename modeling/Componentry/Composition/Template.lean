import Componentry.Text.Blank
import Componentry.Text.Case
import Componentry.Text.Letters
import Componentry.Text.Lines
import Componentry.Text.Quoted

/-
  Templates of text fragments.

  A template is a text with placeholders: the name of a
  parameter between double braces, with an optional filter
  behind a bar.  Everything else is copied.  Placeholders are
  found from left to right; two opening braces that start no
  placeholder make the template malformed.

  A template is checked when it is made, so that filling it
  in can only fail where a parameter has no value.

  Key definitions:
    * `Placeholder`, `placeholder?`
    * `Template.split`
    * `Template`, `Template.ofText`
    * `Template.render`
-/

------------------------------------------------------------
-- Faults
------------------------------------------------------------

namespace Componentry

/- What may be wrong with a template or its values. -/
inductive TemplateFault where
  | malformed (near : String)
  | unknownParameter (name : String) (declared : List String)
  | unknownFilter (name : String)
  | missingValue (name : String)
deriving DecidableEq, Repr

/- The text of a fault. -/
def TemplateFault.message : TemplateFault → String
  | .malformed near =>
      "malformed template placeholder near " ++ Text.quote near
  | .unknownParameter name declared =>
      "template references unknown parameter `" ++ name
        ++ "` (declared: " ++ ", ".intercalate declared ++ ")"
  | .unknownFilter name =>
      "unknown template filter `" ++ name ++ "`"
  | .missingValue name =>
      "no value supplied for template parameter `" ++ name
        ++ "`"

end Componentry

------------------------------------------------------------
-- Placeholders
------------------------------------------------------------

namespace Componentry

namespace Template

/- A placeholder as it is written. -/
structure Placeholder where
  name : String
  filter : Option String
deriving DecidableEq, Repr

/- May this character stand in the name of a filter? -/
def isFilterChar (c : Char) : Bool :=
  c.isAlpha || c == '_'

/- A name, and what follows it. -/
def name?
    (cs : List Char) :
    Option (List Char × List Char) :=
  match cs with
  | [] => none
  | c :: rest =>
      if Text.isNameStart c then
        some
          (c :: rest.takeWhile Text.isNameChar,
           rest.dropWhile Text.isNameChar)
      else none

/- The rest behind two closing braces. -/
def close? : List Char → Option (List Char)
  | '\x7d' :: '\x7d' :: rest => some rest
  | _ => none

/-
  The end of a placeholder behind its name: a filter or none,
  and the closing braces.
-/
def filter?
    (cs : List Char) :
    Option (Option String × List Char) :=
  match Text.trimStart cs with
  | '|' :: rest =>
      let rest := Text.trimStart rest
      let filter := rest.takeWhile isFilterChar
      let rest := rest.dropWhile isFilterChar
      if filter.isEmpty then none
      else
        (close? (Text.trimStart rest)).map fun rest =>
          (some (String.ofList filter), rest)
  | rest => (close? rest).map fun rest => (none, rest)

/-
  The placeholder that a text starts with, and what follows
  it.
-/
def placeholder?
    (cs : List Char) :
    Option (Placeholder × List Char) :=
  match cs with
  | '\x7b' :: '\x7b' :: rest =>
      match name? (Text.trimStart rest) with
      | none => none
      | some (name, rest) =>
          (filter? rest).map fun (filter, rest) =>
            (⟨String.ofList name, filter⟩, rest)
  | _ => none

end Template

end Componentry

------------------------------------------------------------
-- A Placeholder Shortens the Text
------------------------------------------------------------

namespace Componentry

namespace Template

/- Dropping leading characters does not lengthen a text. -/
theorem length_dropWhile_le
    (p : Char → Bool)
    (cs : List Char) :
    (cs.dropWhile p).length ≤ cs.length :=
  (List.dropWhile_sublist p).length_le

theorem name?_length
    {cs name rest : List Char}
    (h : name? cs = some (name, rest)) :
    rest.length ≤ cs.length := by
  cases cs with
  | nil => simp [name?] at h
  | cons c tail =>
      simp only [name?] at h
      split at h
      · simp only [Option.some.injEq, Prod.mk.injEq] at h
        have hTail :=
          length_dropWhile_le Text.isNameChar tail
        rw [← h.2, List.length_cons]
        omega
      · simp at h

theorem close?_length
    {cs rest : List Char}
    (h : close? cs = some rest) :
    rest.length ≤ cs.length := by
  unfold close? at h
  split at h
  · simp only [Option.some.injEq] at h
    subst h
    simp only [List.length_cons]
    omega
  · simp at h

theorem filter?_length
    {cs rest : List Char}
    {filter : Option String}
    (h : filter? cs = some (filter, rest)) :
    rest.length ≤ cs.length := by
  have hStart := Text.length_trimStart_le cs
  unfold filter? at h
  split at h
  · next tail hTail =>
      rw [hTail, List.length_cons] at hStart
      dsimp only at h
      split at h
      · simp at h
      · obtain ⟨found, hFound, hRest⟩ :=
          Option.map_eq_some_iff.1 h
        simp only [Prod.mk.injEq] at hRest
        have hClose := close?_length hFound
        have h₁ := Text.length_trimStart_le tail
        have h₂ :=
          length_dropWhile_le isFilterChar
            (Text.trimStart tail)
        have h₃ :=
          Text.length_trimStart_le
            ((Text.trimStart tail).dropWhile isFilterChar)
        rw [← hRest.2]
        omega
  · next found hOther =>
      obtain ⟨found, hFound, hRest⟩ :=
        Option.map_eq_some_iff.1 h
      simp only [Prod.mk.injEq] at hRest
      have hClose := close?_length hFound
      rw [← hRest.2]
      omega

/- A placeholder takes characters away. -/
theorem placeholder?_length
    {cs rest : List Char}
    {placeholder : Placeholder}
    (h : placeholder? cs = some (placeholder, rest)) :
    rest.length < cs.length := by
  unfold placeholder? at h
  split at h
  · next tail =>
      split at h
      · simp at h
      · next name afterName hName =>
          obtain ⟨found, hFound, hRest⟩ :=
            Option.map_eq_some_iff.1 h
          simp only [Prod.mk.injEq] at hRest
          have h₁ := filter?_length hFound
          have h₂ := name?_length hName
          have h₃ := Text.length_trimStart_le tail
          rw [← hRest.2]
          simp only [List.length_cons]
          omega
  · simp at h

end Template

end Componentry

------------------------------------------------------------
-- Splitting
------------------------------------------------------------

namespace Componentry

namespace Template

/-
  A text cut at its placeholders: what stands before the first
  one, then each placeholder with what stands behind it.
-/
structure Split where
  lead : List Char
  holes : List (Placeholder × List Char)

/- Cut a text at its placeholders, found from the left. -/
def split (cs : List Char) : Split :=
  match cs with
  | [] => ⟨[], []⟩
  | c :: rest =>
      match h : placeholder? (c :: rest) with
      | some (placeholder, after) =>
          have := placeholder?_length h
          let tail := split after
          ⟨[], (placeholder, tail.lead) :: tail.holes⟩
      | none =>
          let tail := split rest
          ⟨c :: tail.lead, tail.holes⟩
termination_by cs.length
decreasing_by
  · exact this
  · simp

/- The text from the first two opening braces on. -/
def opening? : List Char → Option (List Char)
  | '\x7b' :: '\x7b' :: rest =>
      some ('\x7b' :: '\x7b' :: rest)
  | _ :: rest => opening? rest
  | [] => none

end Template

end Componentry

------------------------------------------------------------
-- Templates
------------------------------------------------------------

namespace Componentry

/- What is done to a value before it is filled in. -/
inductive Filter where
  | upper
  | lower
deriving DecidableEq, Repr

namespace Filter

/- The filter with a given name. -/
def ofName? : String → Option Filter
  | "upper" => some .upper
  | "lower" => some .lower
  | _ => none

/- Apply a filter, or none. -/
def apply
    (filter : Option Filter)
    (value : String) :
    String :=
  match filter with
  | none => value
  | some .upper => String.ofList (Text.upper value.toList)
  | some .lower => String.ofList (Text.lower value.toList)

end Filter

/- A parameter to be filled in, and the text behind it. -/
structure Hole where
  name : String
  filter : Option Filter
  text : String
deriving DecidableEq, Repr

/- A text with holes for declared parameters. -/
structure Template where
  source : String
  parameters : List String
  lead : String
  holes : List Hole
  declared : ∀ hole ∈ holes, hole.name ∈ parameters

namespace Template

/- The parameters that are filled in, in order. -/
def placeholders (template : Template) : List String :=
  template.holes.map (·.name)

end Template

end Componentry

------------------------------------------------------------
-- Checking
------------------------------------------------------------

namespace Componentry

namespace Template

/- A literal text, which must not hold two opening braces. -/
def checkLiteral
    (cs : List Char) :
    Except TemplateFault String :=
  match opening? cs with
  | none => .ok (String.ofList cs)
  | some rest =>
      let near := (Text.lines rest).head?.getD []
      .error (.malformed (String.ofList near))

/- The filter of a placeholder. -/
def checkFilter :
    Option String → Except TemplateFault (Option Filter)
  | none => .ok none
  | some name =>
      match Filter.ofName? name with
      | some filter => .ok (some filter)
      | none => .error (.unknownFilter name)

/- The holes of a split text, checked from left to right. -/
def checkHoles
    (parameters : List String) :
    List (Placeholder × List Char) →
      Except TemplateFault
        { holes : List Hole //
          ∀ hole ∈ holes, hole.name ∈ parameters }
  | [] => .ok ⟨[], by simp⟩
  | (placeholder, text) :: rest =>
      if hName : placeholder.name ∈ parameters then
        match checkFilter placeholder.filter with
        | .error fault => .error fault
        | .ok filter =>
            match checkLiteral text with
            | .error fault => .error fault
            | .ok text =>
                match checkHoles parameters rest with
                | .error fault => .error fault
                | .ok ⟨holes, hHoles⟩ =>
                    .ok
                      ⟨⟨placeholder.name, filter, text⟩ ::
                          holes,
                        by simpa using ⟨hName, hHoles⟩⟩
      else
        .error (.unknownParameter placeholder.name parameters)

/- The template of a text over some parameters. -/
def ofText
    (source : String)
    (parameters : List String) :
    Except TemplateFault Template :=
  let parts := split source.toList
  match checkLiteral parts.lead with
  | .error fault => .error fault
  | .ok lead =>
      match checkHoles parameters parts.holes with
      | .error fault => .error fault
      | .ok ⟨holes, hHoles⟩ =>
          .ok ⟨source, parameters, lead, holes, hHoles⟩

/- What a template is checked against stays with it. -/
theorem parameters_of_ofText
    {source : String}
    {parameters : List String}
    {template : Template}
    (h : ofText source parameters = .ok template) :
    template.parameters = parameters := by
  unfold ofText at h
  dsimp only at h
  split at h
  · simp at h
  · split at h
    · simp at h
    · simp only [Except.ok.injEq] at h
      rw [← h]

end Template

end Componentry

------------------------------------------------------------
-- Filling In
------------------------------------------------------------

namespace Componentry

namespace Template

/- Fill in holes; the first one without a value is at fault. -/
def renderHoles
    (values : String → Option String) :
    List Hole → Except TemplateFault String
  | [] => .ok ""
  | hole :: rest =>
      match values hole.name with
      | none => .error (.missingValue hole.name)
      | some value =>
          match renderHoles values rest with
          | .error fault => .error fault
          | .ok tail =>
              .ok
                (Filter.apply hole.filter value
                  ++ hole.text ++ tail)

/- The text of a template with values for its parameters. -/
def render
    (template : Template)
    (values : String → Option String) :
    Except TemplateFault String :=
  match renderHoles values template.holes with
  | .error fault => .error fault
  | .ok tail => .ok (template.lead ++ tail)

end Template

end Componentry
