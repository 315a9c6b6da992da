import NodeGate.HeaderValue
import NodeGate.Proofs.Address
import NodeGate.Proofs.Base64Url
import NodeGate.Proofs.Identity

/-!
# Header values are opened again

What is wrapped into a header value is taken out of it again, so an identity or an address that
one node encodes is what another node decodes. `encodeIdentity_carries` says what the value of an
identity looks like and that it stands for that identity alone.
-/

namespace NodeGate.HeaderValue

open NodeGate.Text NodeGate.Json

/-- The character of a symbol is written as the byte of the symbol. -/
theorem encodeChar_symbol : ∀ value < 64,
    String.utf8EncodeChar (Char.ofNat (Base64Url.symbol value).toNat) =
      [Base64Url.symbol value] := by
  decide

/-- The characters of symbols are written as the bytes of the symbols. -/
theorem encode_symbols {symbols : List UInt8}
    (each : ∀ byte ∈ symbols, ∃ value < 64, byte = Base64Url.symbol value) :
    Utf8.encode (symbols.map fun symbol => Char.ofNat symbol.toNat) = symbols := by
  induction symbols with
  | nil => rfl
  | cons symbol rest inductionHypothesis =>
    obtain ⟨value, small, rfl⟩ := each symbol List.mem_cons_self
    have others := inductionHypothesis fun other member =>
      each other (List.mem_cons_of_mem _ member)
    simp only [Utf8.encode, List.map_cons, List.flatMap_cons] at others ⊢
    rw [encodeChar_symbol value small, others]
    rfl

/-- What was wrapped is taken out again. -/
theorem unwrap_wrap (payload : List UInt8) : unwrap (wrap payload) = .ok payload := by
  have body : Utf8.encode ((Base64Url.encode payload).map fun symbol => Char.ofNat symbol.toNat) =
      Base64Url.encode payload :=
    encode_symbols fun byte member => Base64Url.exists_symbol_of_mem_encode member
  simp only [unwrap, wrap, String.toList_ofList, versionMark, List.cons_append, List.nil_append]
  rw [body, Base64Url.decode_encode]
  rfl

/-- The characters of base64 with the URL alphabet. -/
def urlAlphabet : List Char :=
  "ABCDEFGHIJKLMNOPQRSTUVWXYZabcdefghijklmnopqrstuvwxyz0123456789-_".toList

/-- Every symbol stands for a character of the alphabet. -/
theorem symbol_mem_urlAlphabet : ∀ value < 64,
    Char.ofNat (Base64Url.symbol value).toNat ∈ urlAlphabet := by
  decide

/-- A wrapped payload is the mark of the version and then characters of the alphabet. -/
theorem exists_toList_wrap (payload : List UInt8) :
    ∃ body, (wrap payload).toList = versionMark ++ body ∧ ∀ char ∈ body, char ∈ urlAlphabet := by
  refine ⟨_, by rw [wrap, String.toList_ofList], fun char member => ?_⟩
  obtain ⟨byte, written, rfl⟩ := List.mem_map.1 member
  obtain ⟨value, small, rfl⟩ := Base64Url.exists_symbol_of_mem_encode written
  exact symbol_mem_urlAlphabet value small

/-- A wrapped payload is not an empty value. -/
theorem wrap_ne_empty (payload : List UInt8) : wrap payload ≠ "" := by
  intro same
  have chars := congrArg String.toList same
  simp [wrap, versionMark] at chars

/-- What is read from a payload is what its wrapping carries. -/
theorem decodeWith_wrap {Content : Type} {read : List UInt8 → Option Content}
    {payload : List UInt8} {content : Content} (meaning : read payload = some content) :
    decodeWith read (wrap payload) = .ok content := by
  rw [decodeWith, unwrap_wrap]
  simp only [meaning]

/-- The value of an identity carries the identity. -/
theorem decodeIdentity_encodeIdentity (identity : Identity) :
    decodeIdentity (encodeIdentity identity) = .ok identity :=
  decodeWith_wrap identity.read_toTree_write

/-- Only one identity is written as a given value. -/
theorem encodeIdentity_injective {left right : Identity}
    (same : encodeIdentity left = encodeIdentity right) : left = right := by
  have read := congrArg decodeIdentity same
  rw [decodeIdentity_encodeIdentity, decodeIdentity_encodeIdentity] at read
  exact Except.ok.inj read

/-- The value of an identity is the mark of the version and then characters of the URL alphabet.
It is read as an identity with the same name, the same roles and the same attributes, and no
other identity is written so. -/
theorem encodeIdentity_carries (identity : Identity) :
    (∃ body, (encodeIdentity identity).toList = "v1.".toList ++ body ∧
        ∀ char ∈ body, char ∈ urlAlphabet) ∧
      (∃ read, decodeIdentity (encodeIdentity identity) = .ok read ∧
        read.name = identity.name ∧
        (∀ role, role ∈ read.backendRoles ↔ role ∈ identity.backendRoles) ∧
        ∀ key, read.attributes.get? key = identity.attributes.get? key) ∧
      ∀ other, encodeIdentity other = encodeIdentity identity ↔ other = identity := by
  refine ⟨exists_toList_wrap identity.toTree.write, ?_, fun other => ?_⟩
  · exact ⟨identity, decodeIdentity_encodeIdentity identity, rfl, fun _ => Iff.rfl, fun _ => rfl⟩
  · constructor
    · exact encodeIdentity_injective
    · rintro rfl
      rfl

/-- A quotation mark, a backslash, a control character and a character beyond the first plane. -/
example : encodeIdentity { name := "\"\\\n😀" } = "v1.eyJuYW1lIjoiXCJcXFxu8J-YgCJ9" := by
  decide +kernel

/-- The value of an address carries the address. -/
theorem decodeAddress_encodeAddress (address : Address) :
    decodeAddress (encodeAddress address) = .ok address := by
  apply decodeWith_wrap
  have text := read_write (Identity.legible_textTree address.write)
  simp [readAddress, text]

end NodeGate.HeaderValue
