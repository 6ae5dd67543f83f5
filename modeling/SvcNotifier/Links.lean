import SvcNotifier.Contract
import SvcNotifier.Library.Url

/-!
# What a relative link promises

`RelativeLink` against the way browsers read a reference: what `parse` accepts stays at the
origin it is resolved against, and what it refuses is told by five checks. On the wire a link
is its text, and is parsed again.
-/

namespace SvcNotifier

open Library

namespace RelativeLink

/-- `Deserialize`, by `try_from = "String"`. -/
def deserialize : Value → Option RelativeLink
  | .string candidate => (parse candidate).toOption
  | _ => none

/-- `Serialize`, by `into = "String"`. -/
def serialize (link : RelativeLink) : Value := .string link.asStr

variable {candidate : String}

/-- A candidate is refused when some check refuses it. -/
theorem parse_eq_error {error : RelativeLinkError} :
    parse candidate = .error error ↔ refusal candidate = some error := by
  unfold parse
  split
  · rename_i other refused
    rw [refused]
    constructor
    · intro same
      rw [Except.error.inj same]
    · intro same
      rw [Option.some.inj same]
  · rename_i accepted
    constructor
    · intro impossible
      contradiction
    · intro refused
      rw [accepted] at refused
      contradiction

/-- The five checks. -/
theorem refusal_isSome :
    (refusal candidate).isSome = true ↔
      candidate.toList = [] ∨
      (∃ c ∈ candidate.toList, isControl c = true ∨ isWhitespace c = true) ∨
      '\\' ∈ candidate.toList ∨ ¬ ['/'] <+: candidate.toList ∨ ['/', '/'] <+: candidate.toList := by
  unfold refusal
  by_cases empty : candidate.toList = []
  · simp [empty]
  · rw [if_neg (by simpa using empty)]
    by_cases forbidden : (candidate.toList.any fun c => isControl c || isWhitespace c) = true
    · rw [if_pos forbidden]
      have found : ∃ c ∈ candidate.toList, isControl c = true ∨ isWhitespace c = true := by
        simpa using forbidden
      simp only [Option.isSome_some, true_iff]
      exact Or.inr (Or.inl found)
    · rw [if_neg forbidden]
      have clear : ¬ ∃ c ∈ candidate.toList, isControl c = true ∨ isWhitespace c = true := by
        simpa using forbidden
      by_cases backslash : '\\' ∈ candidate.toList
      · simp [backslash]
      · have isRooted : ['/'].isPrefixOf candidate.toList = true ↔ ['/'] <+: candidate.toList :=
          List.isPrefixOf_iff_prefix
        by_cases rooted : ['/'] <+: candidate.toList
        · by_cases twice : ['/', '/'] <+: candidate.toList
          · simp [backslash, isRooted.mpr rooted, twice]
          · simp [empty, clear, backslash, isRooted.mpr rooted, rooted, twice]
        · simp [backslash, Bool.eq_false_iff.mpr (mt isRooted.mp rooted), rooted]

/-- A control character or a white space is all there is up to the space. -/
theorem plain_character {c : Char} (control : isControl c = false)
    (whitespace : isWhitespace c = false) : 0x20 < c.toNat := by
  by_contra low
  have range : c.toNat ≤ 0x1F ∨ c.toNat = 0x20 := by omega
  rcases range with below | space
  · simp [isControl, below] at control
  · simp [isWhitespace, space] at whitespace

/-- The text of a link is rooted, and needs no rewriting. -/
theorem rooted (link : RelativeLink) :
    ∃ rest, link.asStr.toList = '/' :: rest ∧ (∀ c ∈ '/' :: rest, 0x20 < c.toNat) ∧
      '\\' ∉ '/' :: rest ∧ rest.head? ≠ some '/' := by
  have passed : ¬ (refusal link.asStr).isSome = true := by
    rw [link.accepted]
    decide
  rw [refusal_isSome] at passed
  push Not at passed
  obtain ⟨-, clear, folded, ⟨rest, whole⟩, single⟩ := passed
  rw [List.singleton_append] at whole
  rw [← whole] at clear folded single
  refine ⟨rest, whole.symm, ?_, folded, ?_⟩
  · intro c member
    have refused := clear c member
    exact plain_character (Bool.eq_false_iff.mpr refused.1) (Bool.eq_false_iff.mpr refused.2)
  · intro second
    apply single
    cases rest with
    | nil => cases second
    | cons next rest =>
      obtain rfl : next = '/' := Option.some.inj second
      exact ⟨rest, rfl⟩

end RelativeLink

/-- `RelativeLink` is sound and exact. An accepted candidate is kept as it is and, resolved as a
browser resolves it against any base, is read with neither a scheme nor an authority, so that it
stays at the base's origin. A candidate is refused exactly when one of the five checks refuses
it, and a value is deserialized exactly when it is a string that is parsed. -/
theorem relative_link_sound_and_exact (candidate : String) :
    (∀ link, RelativeLink.parse candidate = .ok link → link.asStr = candidate ∧
      ∀ absolute authority base,
        (∃ text, readReference (specialSchemes.contains base.scheme) candidate.toList =
          .relative text) ∧
        resolveOrigin absolute authority base candidate.toList = base) ∧
    ((∃ error, RelativeLink.parse candidate = .error error) ↔
      candidate.toList = [] ∨
      (∃ c ∈ candidate.toList, isControl c = true ∨ isWhitespace c = true) ∨
      '\\' ∈ candidate.toList ∨ ¬ ['/'] <+: candidate.toList ∨
      ['/', '/'] <+: candidate.toList) ∧
    ∀ value link, RelativeLink.deserialize value = some link ↔
      ∃ text, value = .string text ∧ RelativeLink.parse text = .ok link := by
  refine ⟨?_, ?_, ?_⟩
  · intro link parsed
    have same := RelativeLink.asStr_of_parse parsed
    refine ⟨same, ?_⟩
    intro absolute authority base
    obtain ⟨rest, text, plain, folded, single⟩ := link.rooted
    rw [← same, text]
    exact ⟨⟨_, readReference_rooted _ plain folded single⟩,
      resolveOrigin_rooted absolute authority base plain folded single⟩
  · rw [← RelativeLink.refusal_isSome, Option.isSome_iff_exists]
    exact exists_congr fun error => RelativeLink.parse_eq_error
  · intro value link
    cases value with
    | string text =>
      simp only [RelativeLink.deserialize, Value.string.injEq, exists_eq_left']
      cases RelativeLink.parse text with
      | ok parsed => simp [Except.toOption]
      | error error => simp [Except.toOption]
    | _ => simp [RelativeLink.deserialize]

/-- What a browser would make of candidates that `parse` refuses: a scheme hidden by a tab, and
an authority behind a backslash. -/
example : readReference true "java\tscript:x".toList = .absolute "javascript".toList "x".toList ∧
    readReference true "/\\evil.com".toList = .authority "evil.com".toList := by decide

end SvcNotifier
