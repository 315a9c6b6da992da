import Mathlib.Logic.Relation
import NodeGate.Proofs.DistinguishedName.Components

/-!
# Gaps of a name

Blanks may stand at the ends of a distinguished name, next to its commas and next to the first
equals sign of a component (`Gap`). Blanks in gaps make no difference to the normalised spelling
(`Respaced.normalizeChars_eq`), and every name is reached from its normalised spelling by putting
blanks into gaps (`respaced_normalizeChars`). So names have one normalised spelling exactly if they
differ by blanks in gaps.
-/

namespace NodeGate.DistinguishedName

open NodeGate.Text

/-- A text ends inside a key: since its last comma, if it has one, there was no equals sign. -/
inductive EndsInKey : List Char → Prop where
  | first {key : List Char} (whole : ',' ∉ key) (unsigned : '=' ∉ key) : EndsInKey key
  | later (front : List Char) {key : List Char} (whole : ',' ∉ key) (unsigned : '=' ∉ key) :
      EndsInKey (front ++ ',' :: key)

/-- A place in a name where blanks make no difference, by what stands on its two sides. -/
inductive Gap : List Char → List Char → Prop where
  | start (after : List Char) : Gap [] after
  | finish (before : List Char) : Gap before []
  | behindComma (before after : List Char) : Gap (before ++ [',']) after
  | beforeComma (before after : List Char) : Gap before (',' :: after)
  /-- Before the first equals sign of a component. -/
  | beforeSign {before : List Char} (key : EndsInKey before) (after : List Char) :
      Gap before ('=' :: after)
  /-- Behind the first equals sign of a component. -/
  | behindSign {before : List Char} (key : EndsInKey before) (after : List Char) :
      Gap (before ++ ['=']) after

/-- A name, and the same name with blanks put into one of its gaps. -/
inductive Spaced : List Char → List Char → Prop where
  | insert {before blanks after : List Char} (gap : Gap before after) (blank : AllBlank blanks) :
      Spaced (before ++ after) (before ++ (blanks ++ after))

/-- One name becomes the other by putting blanks into gaps and taking blanks out of gaps. -/
def Respaced (left right : List Char) : Prop :=
  Relation.EqvGen Spaced left right

variable {blanks : List Char}

/-- A comma is not blank. -/
theorem comma_not_mem_of_allBlank (blank : AllBlank blanks) : ',' ∉ blanks :=
  fun member => absurd (blank ',' member) (by decide)

/-- An equals sign is not blank. -/
theorem sign_not_mem_of_allBlank (blank : AllBlank blanks) : '=' ∉ blanks :=
  fun member => absurd (blank '=' member) (by decide)

/-- Blanks before a component make no difference. -/
theorem normalizeComponent_blanks_append (blank : AllBlank blanks) (component : List Char) :
    normalizeComponent (blanks ++ component) = normalizeComponent component := by
  have unsignedBlanks := sign_not_mem_of_allBlank blank
  by_cases signed : '=' ∈ component
  · obtain ⟨key, value, rfl, unsigned⟩ := List.eq_append_cons_of_mem signed
    have unsignedBoth : '=' ∉ blanks ++ key := by simp [unsignedBlanks, unsigned]
    rw [← List.append_assoc, normalizeComponent_sign unsignedBoth,
      normalizeComponent_sign unsigned, trim_blanks_append blank]
  · have unsignedBoth : '=' ∉ blanks ++ component := by simp [unsignedBlanks, signed]
    rw [normalizeComponent_of_not_mem unsignedBoth, normalizeComponent_of_not_mem signed,
      trim_blanks_append blank]

/-- Blanks behind a component make no difference. -/
theorem normalizeComponent_append_blanks (blank : AllBlank blanks) (component : List Char) :
    normalizeComponent (component ++ blanks) = normalizeComponent component := by
  by_cases signed : '=' ∈ component
  · obtain ⟨key, value, rfl, unsigned⟩ := List.eq_append_cons_of_mem signed
    rw [List.append_assoc, List.cons_append, normalizeComponent_sign unsigned,
      normalizeComponent_sign unsigned, trim_append_blanks blank]
  · have unsignedBoth : '=' ∉ component ++ blanks := by
      simp [sign_not_mem_of_allBlank blank, signed]
    rw [normalizeComponent_of_not_mem unsignedBoth, normalizeComponent_of_not_mem signed,
      trim_append_blanks blank]

/-- What makes no difference at the beginning of a component makes none at the beginning of a
name. -/
theorem normalizeChars_congr_front {left right : List Char} (leftWhole : ',' ∉ left)
    (rightWhole : ',' ∉ right)
    (alike : ∀ rest, normalizeComponent (left ++ rest) = normalizeComponent (right ++ rest))
    (after : List Char) : normalizeChars (left ++ after) = normalizeChars (right ++ after) := by
  have component {rest : List Char} (whole : ',' ∉ rest) :
      normalizeChars (left ++ rest) = normalizeChars (right ++ rest) := by
    have leftBoth : ',' ∉ left ++ rest := by simp [leftWhole, whole]
    have rightBoth : ',' ∉ right ++ rest := by simp [rightWhole, whole]
    rw [normalizeChars_of_not_mem leftBoth, normalizeChars_of_not_mem rightBoth, alike]
  -- Both texts end inside the first component of what follows, so no later one is touched.
  cases after using component_induction with
  | last rest whole => exact component whole
  | front rest more whole =>
      rw [← List.append_assoc, ← List.append_assoc, normalizeChars_append, normalizeChars_append,
        component whole]

/-- Blanks at the beginning of a name make no difference. -/
theorem normalizeChars_blanks_append (blank : AllBlank blanks) (name : List Char) :
    normalizeChars (blanks ++ name) = normalizeChars name :=
  normalizeChars_congr_front (comma_not_mem_of_allBlank blank) List.not_mem_nil
    (normalizeComponent_blanks_append blank) name

/-- Blanks at the end of a name make no difference. -/
theorem normalizeChars_append_blanks (blank : AllBlank blanks) (name : List Char) :
    normalizeChars (name ++ blanks) = normalizeChars name := by
  induction name using component_induction with
  | last component whole =>
      have both : ',' ∉ component ++ blanks := by simp [comma_not_mem_of_allBlank blank, whole]
      rw [normalizeChars_of_not_mem both, normalizeChars_of_not_mem whole,
        normalizeComponent_append_blanks blank]
  | front component rest whole inductionHypothesis =>
      rw [List.append_assoc, List.cons_append, normalizeChars_append, normalizeChars_append,
        inductionHypothesis]

/-- What makes no difference behind a key without commas and equals signs makes none behind any
key. -/
theorem EndsInKey.normalizeChars_congr {before left right : List Char} (inKey : EndsInKey before)
    (alike : ∀ key, ',' ∉ key → '=' ∉ key →
      normalizeChars (key ++ left) = normalizeChars (key ++ right)) :
    normalizeChars (before ++ left) = normalizeChars (before ++ right) := by
  cases inKey with
  | first whole unsigned => exact alike _ whole unsigned
  | later front whole unsigned =>
      rw [List.append_assoc, List.append_assoc, List.cons_append, List.cons_append,
        normalizeChars_append, normalizeChars_append, alike _ whole unsigned]

/-- Blanks next to the first equals sign of a component make no difference, on either side. -/
theorem normalizeChars_around_sign {front back : List Char} (frontBlank : AllBlank front)
    (backBlank : AllBlank back) {before : List Char} (inKey : EndsInKey before)
    (after : List Char) :
    normalizeChars (before ++ (front ++ '=' :: (back ++ after))) =
      normalizeChars (before ++ '=' :: after) := by
  apply inKey.normalizeChars_congr
  intro key whole unsigned
  have unsignedFront : '=' ∉ key ++ front := by simp [sign_not_mem_of_allBlank frontBlank, unsigned]
  have wholeLeft : ',' ∉ (key ++ front) ++ '=' :: back := by
    simp [comma_not_mem_of_allBlank frontBlank, comma_not_mem_of_allBlank backBlank, whole]
  have wholeRight : ',' ∉ key ++ ['='] := by simp [whole]
  have alike (rest : List Char) :
      normalizeComponent (((key ++ front) ++ '=' :: back) ++ rest) =
        normalizeComponent ((key ++ ['=']) ++ rest) := by
    rw [List.append_assoc (key ++ front), List.cons_append, normalizeComponent_sign unsignedFront,
      List.append_assoc key, List.singleton_append, normalizeComponent_sign unsigned,
      trim_append_blanks frontBlank, trim_blanks_append backBlank]
  simpa using normalizeChars_congr_front wholeLeft wholeRight alike after

/-- Blanks in a gap make no difference. -/
theorem Gap.normalizeChars_eq {before after : List Char} (gap : Gap before after)
    (blank : AllBlank blanks) :
    normalizeChars (before ++ (blanks ++ after)) = normalizeChars (before ++ after) := by
  have nothing : AllBlank [] := List.forall_mem_nil _
  cases gap with
  | start => exact normalizeChars_blanks_append blank after
  | finish =>
      rw [List.append_nil, List.append_nil]
      exact normalizeChars_append_blanks blank before
  | behindComma front =>
      rw [List.append_assoc, List.append_assoc, List.singleton_append, List.singleton_append,
        normalizeChars_append, normalizeChars_append, normalizeChars_blanks_append blank]
  | beforeComma =>
      rw [← List.append_assoc, normalizeChars_append, normalizeChars_append,
        normalizeChars_append_blanks blank]
  | beforeSign key rest => exact normalizeChars_around_sign blank nothing key rest
  | behindSign key =>
      rw [List.append_assoc, List.append_assoc, List.singleton_append, List.singleton_append]
      exact normalizeChars_around_sign nothing blank key after

/-- Names that differ by blanks in gaps have one normalised spelling. -/
theorem Respaced.normalizeChars_eq {left right : List Char} (respaced : Respaced left right) :
    normalizeChars left = normalizeChars right := by
  induction respaced with
  | rel left right spaced =>
      cases spaced with
      | insert gap blank => exact (gap.normalizeChars_eq blank).symm
  | refl name => rfl
  | symm left right _ inductionHypothesis => exact inductionHypothesis.symm
  | trans left middle right _ _ first second => exact first.trans second

/-- A text that ends inside a key does so behind any components. -/
theorem EndsInKey.components {before : List Char} (inKey : EndsInKey before)
    (front : List Char) : EndsInKey (front ++ ',' :: before) := by
  cases inKey with
  | first whole unsigned => exact .later front whole unsigned
  | later others whole unsigned =>
      have longer := EndsInKey.later (front ++ ',' :: others) whole unsigned
      rwa [List.append_assoc, List.cons_append] at longer

/-- A gap of a name is one of every longer name that has more components. -/
theorem Gap.components {before after : List Char} (gap : Gap before after)
    (front back : List Char) :
    Gap (front ++ ',' :: before) after ∧ Gap before (after ++ ',' :: back) := by
  cases gap with
  | start => exact ⟨.behindComma front after, .start _⟩
  | finish => exact ⟨.finish _, .beforeComma before back⟩
  | behindComma others =>
      have longer := Gap.behindComma (front ++ ',' :: others) after
      rw [List.append_assoc, List.cons_append] at longer
      exact ⟨longer, .behindComma others _⟩
  | beforeComma => exact ⟨.beforeComma _ _, .beforeComma _ _⟩
  | beforeSign inKey => exact ⟨.beforeSign (inKey.components front) _, .beforeSign inKey _⟩
  | behindSign inKey =>
      have longer := Gap.behindSign (inKey.components front) after
      rw [List.append_assoc, List.cons_append] at longer
      exact ⟨longer, .behindSign inKey _⟩

/-- Names that differ by blanks in gaps do so when components are put before or behind both. -/
theorem Respaced.components {left right : List Char} (respaced : Respaced left right)
    (front back : List Char) :
    Respaced (front ++ ',' :: left) (front ++ ',' :: right) ∧
      Respaced (left ++ ',' :: back) (right ++ ',' :: back) := by
  induction respaced with
  | rel left right spaced =>
      cases spaced with
      | @insert before blanks after gap blank =>
          have longer := gap.components front back
          constructor
          · have inserted := Spaced.insert longer.1 blank
            rw [List.append_assoc, List.append_assoc] at inserted
            exact .rel _ _ inserted
          · have inserted := Spaced.insert longer.2 blank
            rw [List.append_assoc, List.append_assoc, List.append_assoc]
            exact .rel _ _ inserted
  | refl name => exact ⟨.refl _, .refl _⟩
  | symm left right _ inductionHypothesis =>
      exact ⟨.symm _ _ inductionHypothesis.1, .symm _ _ inductionHypothesis.2⟩
  | trans left middle right _ _ first second =>
      exact ⟨.trans _ _ _ first.1 second.1, .trans _ _ _ first.2 second.2⟩

/-- Blanks may be put around a name. -/
theorem respaced_around {front back : List Char} (frontBlank : AllBlank front)
    (backBlank : AllBlank back) (name : List Char) : Respaced name (front ++ (name ++ back)) := by
  have behind : Spaced name (name ++ back) := by
    simpa using Spaced.insert (.finish name) backBlank
  exact .trans _ _ _ (.rel _ _ behind) (.rel _ _ (.insert (.start (name ++ back)) frontBlank))

/-- Blanks may be put around the first equals sign of a component. -/
theorem respaced_around_sign {front back : List Char} (frontBlank : AllBlank front)
    (backBlank : AllBlank back) {before : List Char} (inKey : EndsInKey before)
    (after : List Char) :
    Respaced (before ++ '=' :: after) (before ++ (front ++ '=' :: (back ++ after))) := by
  have behind : Spaced (before ++ '=' :: after) (before ++ '=' :: (back ++ after)) := by
    simpa using Spaced.insert (.behindSign inKey after) backBlank
  exact .trans _ _ _ (.rel _ _ behind)
    (.rel _ _ (.insert (.beforeSign inKey (back ++ after)) frontBlank))

/-- A component is reached from its normalised spelling by putting blanks into gaps. -/
theorem respaced_normalizeComponent {component : List Char} (whole : ',' ∉ component) :
    Respaced (normalizeComponent component) component := by
  by_cases signed : '=' ∈ component
  · obtain ⟨key, value, rfl, unsigned⟩ := List.eq_append_cons_of_mem signed
    rw [normalizeComponent_sign unsigned]
    obtain ⟨front, beforeSign, frontBlank, beforeBlank, keyParts⟩ := exists_eq_append_trim key
    obtain ⟨behindSign, back, behindBlank, backBlank, valueParts⟩ := exists_eq_append_trim value
    have keyFree {char : Char} (absent : char ∉ key) : char ∉ trim key := by
      intro member
      apply absent
      rw [keyParts]
      simp [member]
    have wholeKey : ',' ∉ key := fun member => whole (List.mem_append_left _ member)
    have inKey := EndsInKey.first (keyFree wholeKey) (keyFree unsigned)
    -- The outer blanks of key and value stand at the ends of the component, the inner ones next to
    -- its sign.
    have around := respaced_around frontBlank backBlank
      (trim key ++ (beforeSign ++ '=' :: (behindSign ++ trim value)))
    have parts : key ++ '=' :: value =
        front ++ (trim key ++ (beforeSign ++ '=' :: (behindSign ++ trim value)) ++ back) :=
      calc
        key ++ '=' :: value = front ++ (trim key ++ beforeSign) ++
            '=' :: (behindSign ++ (trim value ++ back)) := by rw [← keyParts, ← valueParts]
        _ = _ := by simp only [List.append_assoc, List.cons_append]
    rw [parts]
    exact .trans _ _ _ (respaced_around_sign beforeBlank behindBlank inKey (trim value)) around
  · rw [normalizeComponent_of_not_mem signed]
    obtain ⟨front, back, frontBlank, backBlank, parts⟩ := exists_eq_append_trim component
    have around := respaced_around frontBlank backBlank (trim component)
    rwa [← parts] at around

/-- A name is reached from its normalised spelling by putting blanks into gaps. -/
theorem respaced_normalizeChars (name : List Char) : Respaced (normalizeChars name) name := by
  induction name using component_induction with
  | last component whole =>
      rw [normalizeChars_of_not_mem whole]
      exact respaced_normalizeComponent whole
  | front component rest whole inductionHypothesis =>
      rw [normalizeChars_append, normalizeChars_of_not_mem whole]
      have first := respaced_normalizeComponent whole
      exact .trans _ _ _ (first.components [] (normalizeChars rest)).2
        (inductionHypothesis.components component []).1

/-- Two names have one normalised spelling exactly if they differ by blanks in gaps. -/
theorem normalizeChars_eq_iff_respaced {left right : List Char} :
    normalizeChars left = normalizeChars right ↔ Respaced left right := by
  constructor
  · intro same
    have reached := respaced_normalizeChars left
    rw [same] at reached
    exact .trans _ _ _ (.symm _ _ reached) (respaced_normalizeChars right)
  · exact Respaced.normalizeChars_eq

end NodeGate.DistinguishedName
