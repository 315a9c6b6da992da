import NodeGate.Proofs.DistinguishedName.Gaps
import NodeGate.Proofs.Pattern.Language
import NodeGate.Proofs.Reload.Principals

/-!
# One spelling for each name

The normalised spelling of a distinguished name stands for the name up to blanks in gaps, and
nothing that can be seen of a name is lost in it. So nobody is taken for somebody whose name looks
different, be it a principal that is known or a node that is listed by name (`normalize_canonical`).
-/

namespace NodeGate.DistinguishedName

open NodeGate.Text

/-- Names are equal in normalised spelling exactly if they differ by blanks in gaps. -/
theorem normalize_eq_iff_respaced {left right : String} :
    normalize left = normalize right ↔ Respaced left.toList right.toList := by
  rw [normalize, normalize, String.ofList_inj, normalizeChars_eq_iff_respaced]

/-- Normalising a name keeps what is visible of it. -/
theorem visible_normalize (name : String) :
    visible (normalize name).toList = visible name.toList := by
  rw [normalize, String.toList_ofList, visible_normalizeChars]

/-- Names that are equal in normalised spelling are equal in what is visible of them. -/
theorem visible_eq_of_normalize_eq {left right : String} (same : normalize left = normalize right) :
    visible left.toList = visible right.toList := by
  rw [← visible_normalize left, same, visible_normalize]

/-- A literal pattern is literal in normalised spelling. -/
theorem isLiteral_normalize {name : String} (literal : (Pattern.mk name).isLiteral = true) :
    (Pattern.mk (normalize name)).isLiteral = true := by
  rw [Pattern.isLiteral_iff] at literal ⊢
  intro char member
  cases blank : isBlank char with
  | true =>
      constructor
      · rintro rfl
        exact absurd blank (by decide)
      · rintro rfl
        exact absurd blank (by decide)
  | false =>
      have seen : char ∈ visible (normalize name).toList := by simp [visible, member, blank]
      rw [visible_normalize] at seen
      exact literal char (List.mem_of_mem_filter seen)

/-- A principal is known by a mapping of a name that looks the same. -/
theorem exists_mapping_of_answer {settings : AuthenticationSettings} {name : String}
    {identity : Identity}
    (known : (PrincipalTable.ofSettings settings).answer name = .known identity) :
    ∃ mapping ∈ settings.principals, visible mapping.dn.toList = visible name.toList ∧
      (PrincipalTable.entry mapping).2 = identity := by
  rw [PrincipalTable.answer_ofSettings] at known
  split at known
  · rename_i mapping found
    have same : normalize mapping.dn = normalize name := by simpa using List.find?_some found
    exact ⟨mapping, List.mem_reverse.1 (List.mem_of_find?_eq_some found),
      visible_eq_of_normalize_eq same, BackendAnswer.known.inj known⟩
  · cases known

/-- Where nodes are listed by name alone, a node is recognised by a listed name that looks the
same. -/
theorem exists_listed_of_recognises {settings : TransportSettings} {name : String}
    {certificates : List Certificate} (unmarked : settings.certificateOid = none)
    (literal : ∀ dn ∈ settings.nodesDn, (Pattern.mk dn).isLiteral = true)
    (recognised : (NodeRecognition.ofSettings settings).recognises certificates name = true) :
    ∃ dn ∈ settings.nodesDn, visible dn.toList = visible name.toList := by
  simp only [NodeRecognition.recognises, NodeRecognition.hasMarker, NodeRecognition.ofSettings,
    unmarked, Bool.or_false, Pattern.anyMatch, List.any_map, List.any_eq_true,
    Function.comp_apply] at recognised
  obtain ⟨dn, listed, matched⟩ := recognised
  rw [Pattern.isMatch, if_pos (isLiteral_normalize (literal dn listed)), beq_iff_eq] at matched
  exact ⟨dn, listed, visible_eq_of_normalize_eq matched⟩

/-- The normalised spelling of a name is canonical: it is its own, and names have the same one
exactly if they differ by blanks in gaps. It shows the same characters in the same order, and as
many commas. So names with one normalised spelling differ in blanks alone; a principal is known, and
a node that is listed by name is recognised, under names alone that look the same. -/
theorem normalize_canonical (name : String) :
    normalize (normalize name) = normalize name ∧
      (∀ other, normalize other = normalize name ↔ Respaced other.toList name.toList) ∧
      visible (normalize name).toList = visible name.toList ∧
      (normalize name).toList.count ',' = name.toList.count ',' ∧
      (∀ other, normalize other = normalize name →
        visible other.toList = visible name.toList) ∧
      (∀ settings identity,
        (PrincipalTable.ofSettings settings).answer name = .known identity →
          ∃ mapping ∈ settings.principals, visible mapping.dn.toList = visible name.toList ∧
            (PrincipalTable.entry mapping).2 = identity) ∧
      ∀ (settings : TransportSettings) certificates, settings.certificateOid = none →
        (∀ dn ∈ settings.nodesDn, (Pattern.mk dn).isLiteral = true) →
          (NodeRecognition.ofSettings settings).recognises certificates name = true →
            ∃ dn ∈ settings.nodesDn, visible dn.toList = visible name.toList := by
  have reached : Respaced (normalize name).toList name.toList := by
    rw [normalize, String.toList_ofList]
    exact respaced_normalizeChars name.toList
  have commas (text : List Char) : (visible text).count ',' = text.count ',' :=
    List.count_filter (by decide)
  refine ⟨normalize_eq_iff_respaced.2 reached, fun other => normalize_eq_iff_respaced,
    visible_normalize name, ?_, fun other => visible_eq_of_normalize_eq,
    fun settings identity => exists_mapping_of_answer,
    fun settings certificates => exists_listed_of_recognises⟩
  rw [← commas, visible_normalize, commas]

/-- A user and a node are known under another spelling than was configured, with an unusual blank
in it. -/
theorem normalize_canonical_kirk :
    let settings : AuthenticationSettings := { principals := [⟨"CN=kirk,OU = Ops", "kirk", []⟩] }
    let nodes : TransportSettings := { nodesDn := ["CN =kirk ,OU=Ops"] }
    let name := "CN = kirk,\u2003OU=Ops"
    normalize name = "CN=kirk,OU=Ops" ∧
      (∃ mapping ∈ settings.principals, visible mapping.dn.toList = visible name.toList ∧
        (PrincipalTable.entry mapping).2 = { name := "kirk" }) ∧
      ∃ dn ∈ nodes.nodesDn, visible dn.toList = visible name.toList := by
  intro settings nodes name
  have known : (PrincipalTable.ofSettings settings).answer name = .known { name := "kirk" } := by
    decide
  have literal : ∀ dn ∈ nodes.nodesDn, (Pattern.mk dn).isLiteral = true := by decide
  have recognised : (NodeRecognition.ofSettings nodes).recognises [] name = true := by decide
  obtain ⟨_, _, _, _, _, mapped, listed⟩ := normalize_canonical name
  exact ⟨by decide, mapped settings _ known, listed nodes [] rfl literal recognised⟩

/-- Letter case is part of a name. -/
example : normalize "CN=Kirk" ≠ normalize "CN=kirk" := by
  decide

end NodeGate.DistinguishedName
