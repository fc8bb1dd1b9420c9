import CloudSynth.Identifier
import CloudSynth.Proofs.Text.Joined

/-!
# Hashed bytes

Stable identifiers are digests of a few texts, with a zero byte after each of them. In UTF-8 a zero
byte stands for the character U+0000 and for nothing else. So the bytes tell where a text ends that
does not have this character, and the last text may hold any characters if it is known to be the
last one.

The bytes that are hashed are therefore those of one backend, or of one resource of one hash, and of
nothing else (`BackendIdentifier.hashedBytes_unambiguous`). Nothing is said of the digest itself,
and it may be any function: a hash consists of hexadecimal digits in any case.
-/

namespace CloudSynth

/-! ## Bytes of texts -/

theorem textBytes_inj {text other : String} : textBytes text = textBytes other ↔ text = other := by
  constructor
  · intro same
    apply String.toByteArray_inj.mp
    rw [← String.utf8Encode_toList, ← String.utf8Encode_toList]
    exact congrArg List.toByteArray same
  · rintro rfl
    rfl

theorem zero_mem_utf8EncodeChar_iff {character : Char} :
    0 ∈ String.utf8EncodeChar character ↔ character = '\x00' := by
  have code : character = '\x00' ↔ character.val.toNat = 0 := Char.toNat_inj.symm
  have byte : ∀ {value : Nat}, value < 256 → (0 = UInt8.ofNat value ↔ value = 0) := by
    intro value small
    rw [← UInt8.toNat_inj, UInt8.toNat_ofNat_of_lt' small, eq_comm]
    rfl
  rw [code]
  -- A character beyond 127 is written in bytes of at least 128.
  fun_cases String.utf8EncodeChar character <;>
    simp (disch := omega) only [List.mem_cons, List.not_mem_nil, or_false, byte] <;> omega

/-- The text does not have the character whose byte separates the texts that are hashed. -/
def ZeroFree (text : String) : Prop := '\x00' ∉ text.toList

instance (text : String) : Decidable (ZeroFree text) :=
  inferInstanceAs (Decidable ('\x00' ∉ text.toList))

theorem zeroFree_iff {text : String} : ZeroFree text ↔ 0 ∉ textBytes text := by
  simp [ZeroFree, textBytes, List.mem_flatMap, zero_mem_utf8EncodeChar_iff]

/-! ## Bytes of several texts -/

section Parts

variable {part other : String} {parts others : List String}

theorem separatedBytes_cons :
    separatedBytes (part :: parts) = textBytes part ++ 0 :: separatedBytes parts := by
  simp [separatedBytes]

/-- The first zero byte ends the first text. -/
theorem separatedBytes_cons_inj (free : ZeroFree part) (otherFree : ZeroFree other) :
    separatedBytes (part :: parts) = separatedBytes (other :: others) ↔
      part = other ∧ separatedBytes parts = separatedBytes others := by
  rw [separatedBytes_cons, separatedBytes_cons, append_cons_eq_append_cons_iff, textBytes_inj]
  constructor
  · rintro (⟨texts, rest⟩ | ⟨between, reaches, _⟩ | ⟨between, reaches, _⟩)
    · exact ⟨texts, rest⟩
    · exact absurd (by simp [reaches]) (zeroFree_iff.mp free)
    · exact absurd (by simp [reaches]) (zeroFree_iff.mp otherFree)
  · exact Or.inl

theorem separatedBytes_singleton_inj :
    separatedBytes [part] = separatedBytes [other] ↔ part = other := by
  simp [separatedBytes, textBytes_inj]

/-- Texts without the separating character can be told apart from any others, of whatever number. -/
theorem separatedBytes_inj (free : ∀ part ∈ parts, ZeroFree part)
    (othersFree : ∀ other ∈ others, ZeroFree other) :
    separatedBytes parts = separatedBytes others ↔ parts = others := by
  induction parts generalizing others with
  | nil => cases others <;> simp [separatedBytes]
  | cons part parts inner =>
      cases others with
      | nil => simp [separatedBytes]
      | cons other others =>
          rw [List.forall_mem_cons] at free othersFree
          rw [separatedBytes_cons_inj free.1 othersFree.1, inner free.2 othersFree.2,
            List.cons.injEq]

end Parts

/-! ## Stable identifiers -/

/-- The hash that a digest of any kind is cut to. -/
def cutDigest (digest : List UInt8 → List UInt8) (bytes : List UInt8) : String :=
  String.ofList ((Digest.hex (digest bytes)).take 20)

theorem zeroFree_cutDigest (digest : List UInt8 → List UInt8) (bytes : List UInt8) :
    ZeroFree (cutDigest digest bytes) := by
  have digits : ∀ value, value < 16 → Json.hexDigit value ≠ '\x00' := by decide
  intro zero_mem
  rw [cutDigest, String.toList_ofList] at zero_mem
  rcases List.mem_flatMap.mp (List.mem_of_mem_take zero_mem) with ⟨byte, _, zero_mem⟩
  have small := byte.toNat_lt
  rcases List.mem_pair.mp zero_mem with high | low
  · exact digits (byte.toNat / 16) (by omega) high.symm
  · exact digits (byte.toNat % 16) (by omega) low.symm

theorem BackendIdentifier.stableHash_eq_cutDigest (identifier : BackendIdentifier) :
    identifier.stableHash = cutDigest Digest.sha256 identifier.hashedBytes := rfl

theorem DeploymentKind.name_inj {kind other : DeploymentKind} :
    kind.name = other.name ↔ kind = other := by
  cases kind <;> cases other <;> decide

namespace BackendIdentifier

/-- Neither the project nor the name has the separating character. -/
structure ZeroFree (identifier : BackendIdentifier) : Prop where
  project : CloudSynth.ZeroFree identifier.project
  name : CloudSynth.ZeroFree identifier.name

theorem ZeroFree.parts {identifier : BackendIdentifier} (free : identifier.ZeroFree) :
    ∀ part ∈ [identifier.project, identifier.name, identifier.kind.name],
      CloudSynth.ZeroFree part := by
  have kind : CloudSynth.ZeroFree identifier.kind.name := by
    cases identifier.kind <;> decide
  simp [free.project, free.name, kind]

theorem hashedBytes_inj {first second : BackendIdentifier} (free : first.ZeroFree)
    (secondFree : second.ZeroFree) : first.hashedBytes = second.hashedBytes ↔ first = second := by
  rw [hashedBytes, hashedBytes, separatedBytes_inj free.parts secondFree.parts]
  cases first
  cases second
  simp [DeploymentKind.name_inj]

/-- Projects and names that have the separating character can be taken for others. -/
example : (⟨"orders\x00web", "main", .branch⟩ : BackendIdentifier).hashedBytes =
    (⟨"orders", "web\x00main", .branch⟩ : BackendIdentifier).hashedBytes := by
  decide

end BackendIdentifier

/-- The hash ends at the first zero byte, and all that follows but the last byte is the name. -/
theorem resourceBytes_inj {hash other name otherName : String} (free : ZeroFree hash)
    (otherFree : ZeroFree other) :
    resourceBytes hash name = resourceBytes other otherName ↔
      hash = other ∧ name = otherName := by
  rw [resourceBytes, resourceBytes, separatedBytes_cons_inj free otherFree,
    separatedBytes_singleton_inj]

namespace BackendIdentifier

/-- The bytes of backends and of resources have different numbers of zeros. -/
theorem hashedBytes_ne_resourceBytes {identifier : BackendIdentifier} {hash name : String}
    (free : identifier.ZeroFree) (hashFree : CloudSynth.ZeroFree hash)
    (nameFree : CloudSynth.ZeroFree name) : identifier.hashedBytes ≠ resourceBytes hash name := by
  intro same
  have parts := (separatedBytes_inj free.parts (by simp [hashFree, nameFree])).mp same
  simp at parts

/-- Whatever the digest is: different backends, different resources of any hashes, and a backend and
a resource never have the same bytes hashed. Only the name of a resource may have the separating
character, and then it is told from all other resources, but not from backends. -/
theorem hashedBytes_unambiguous (digest : List UInt8 → List UInt8) :
    (∀ first second : BackendIdentifier, first.ZeroFree → second.ZeroFree →
      (first.hashedBytes = second.hashedBytes ↔ first = second)) ∧
    (∀ bytes others name other,
      resourceBytes (cutDigest digest bytes) name = resourceBytes (cutDigest digest others) other ↔
        cutDigest digest bytes = cutDigest digest others ∧ name = other) ∧
    (∀ identifier : BackendIdentifier, identifier.ZeroFree → ∀ bytes name,
      CloudSynth.ZeroFree name →
        identifier.hashedBytes ≠ resourceBytes (cutDigest digest bytes) name) := by
  refine ⟨?_, ?_, ?_⟩
  · intro first second free secondFree
    exact hashedBytes_inj free secondFree
  · intro bytes others name other
    exact resourceBytes_inj (zeroFree_cutDigest digest bytes) (zeroFree_cutDigest digest others)
  · intro identifier free bytes name nameFree
    exact hashedBytes_ne_resourceBytes free (zeroFree_cutDigest digest bytes) nameFree

/-- Branch backends that have their parameters in common have different bytes hashed, and so have
their resources of similar names. -/
theorem hashedBytes_unambiguous_reaching :
    let shop : BackendIdentifier := ⟨"orders-web/shop", "main", .branch⟩
    let web : BackendIdentifier := ⟨"orders-web", "shop/main", .branch⟩
    shop.ZeroFree ∧ web.ZeroFree ∧ shop.parameterPath = web.parameterPath ∧
      shop.hashedBytes ≠ web.hashedBytes ∧
      resourceBytes shop.stableHash "portal" ≠ resourceBytes shop.stableHash "portal\x00" ∧
      CloudSynth.ZeroFree "portal" ∧
      shop.hashedBytes ≠ resourceBytes web.stableHash "portal" := by
  intro shop web
  have shopFree : shop.ZeroFree := ⟨by decide, by decide⟩
  have webFree : web.ZeroFree := ⟨by decide, by decide⟩
  have portalFree : CloudSynth.ZeroFree "portal" := by decide
  rcases hashedBytes_unambiguous Digest.sha256 with ⟨backends, resources, apart⟩
  refine ⟨shopFree, webFree, by decide, ?_, ?_, portalFree, ?_⟩
  · exact mt (backends shop web shopFree webFree).mp (by decide)
  · rw [stableHash_eq_cutDigest]
    intro same
    exact absurd ((resources _ _ _ _).mp same).2 (by decide)
  · rw [stableHash_eq_cutDigest]
    exact apart shop shopFree _ "portal" portalFree

end BackendIdentifier

end CloudSynth
