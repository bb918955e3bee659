import InstaGLAM.Machinery.Regex
import Mathlib.Data.List.Perm.Basic

/-!
# Helpers/StringExtension — the checks and the key encoding of `String+Extension.swift`

A Swift string is the list of its Unicode scalars.  `isValidEmail` and `isValidPassword` are the two
`NSPredicate` patterns, run by the matcher of `Machinery/Regex`; `safeDataBaseKey` is the chain of
six replacements.

`isValidEmail_iff` reads the email pattern as a split of the text, `safeDataBaseKey_eq_map` the
chain as one pass, and `safeDataBaseKey_eq_iff` says when two strings get one key.
-/

namespace InstaGLAM

open Regex

/-- A Swift string, as its Unicode scalars. -/
abbrev SwiftString := List Char

/-! ## The two patterns -/

/-- `[A-Z0-9a-z._%+-]` -/
def emailLocalChar (c : Char) : Bool :=
  range 'A' 'Z' c || range '0' '9' c || range 'a' 'z' c || ['.', '_', '%', '+', '-'].contains c

/-- `[A-Za-z0-9.-]` -/
def emailDomainChar (c : Char) : Bool :=
  range 'A' 'Z' c || range 'a' 'z' c || range '0' '9' c || ['.', '-'].contains c

/-- `[A-Za-z]` -/
def asciiLetter (c : Char) : Bool := range 'A' 'Z' c || range 'a' 'z' c

/-- `[A-Z0-9a-z._%+-]+@[A-Za-z0-9.-]+\.[A-Za-z]{2,}` -/
def emailPattern : Pattern :=
  .concat (.atLeast 1 emailLocalChar)
    [.cls (· == '@'), .atLeast 1 emailDomainChar, .cls (· == '.'), .atLeast 2 asciiLetter]

/-- `var isValidEmail`. -/
def isValidEmail (s : SwiftString) : Bool := emailPattern.isMatch s

/-- `^(?=.*[A-Za-z])(?=.*\d)[A-Za-z\d]{8,}$` -/
def passwordPattern [DecimalDigits] : Pattern :=
  .concat .start
    [.ahead (.seq (.atLeast 0 dot) (.cls asciiLetter)),
      .ahead (.seq (.atLeast 0 dot) (.cls DecimalDigits.isDecimalDigit)),
      .atLeast 8 (fun c => asciiLetter c || DecimalDigits.isDecimalDigit c), .finish]

/-- `var isValidPassword`. -/
def isValidPassword [DecimalDigits] (s : SwiftString) : Bool := passwordPattern.isMatch s

/-- **What the email pattern accepts**: a local part, `@`, a domain, `.` and two or more letters. -/
theorem isValidEmail_iff {s : SwiftString} : isValidEmail s = true ↔
    ∃ l d t, s = l ++ '@' :: (d ++ '.' :: t) ∧ l ≠ [] ∧ (∀ c ∈ l, emailLocalChar c = true) ∧
      d ≠ [] ∧ (∀ c ∈ d, emailDomainChar c = true) ∧ 2 ≤ t.length ∧
      ∀ c ∈ t, asciiLetter c = true := by
  have hpos : ∀ a : List Char, 1 ≤ a.length ↔ a ≠ [] := fun a => by
    rw [Nat.one_le_iff_ne_zero, ne_eq, List.length_eq_zero_iff]
  simp only [isValidEmail, emailPattern, Pattern.concat, isMatch_iff, mem_matchAt_seq,
    mem_matchAt_atLeast, mem_matchAt_cls, hpos, beq_iff_eq]
  constructor
  · rintro ⟨q, ⟨⟨b₁, s₁⟩, ⟨l, hl, hl₁, hlc, -⟩, ⟨b₂, s₂⟩, ⟨_, rfl, h₂, -⟩, ⟨b₃, s₃⟩,
      ⟨d, hd, hd₁, hdc, -⟩, ⟨b₄, s₄⟩, ⟨_, rfl, h₄, -⟩, t, ht, ht₁, htc, -⟩, hq⟩
    simp only [hq, List.append_nil] at hl h₂ hd h₄ ht
    exact ⟨l, d, t, by rw [hl, h₂, hd, h₄, ht], hl₁, hlc, hd₁, hdc, ht₁, htc⟩
  · rintro ⟨l, d, t, rfl, hl, hlc, hd, hdc, ht, htc⟩
    exact ⟨⟨_, []⟩, ⟨⟨_, _⟩, ⟨l, rfl, hl, hlc, rfl⟩, ⟨_, _⟩, ⟨_, rfl, rfl, rfl⟩, ⟨_, _⟩,
      ⟨d, rfl, hd, hdc, rfl⟩, ⟨_, _⟩, ⟨_, rfl, rfl, rfl⟩, t, by simp, ht, htc, rfl⟩, rfl⟩

/-- The characters an accepted email is made of. -/
def emailChar (c : Char) : Bool := emailLocalChar c || c == '@'

theorem emailChar_of_domain {c : Char} (h : emailDomainChar c = true) : emailChar c = true := by
  simp only [emailDomainChar, emailChar, emailLocalChar, List.contains_eq_mem, List.mem_cons,
    List.not_mem_nil, Bool.or_eq_true, decide_eq_true_eq] at h ⊢
  tauto

theorem emailChar_of_letter {c : Char} (h : asciiLetter c = true) : emailChar c = true := by
  simp only [asciiLetter, emailChar, emailLocalChar, Bool.or_eq_true] at h ⊢
  tauto

theorem emailChar_of_isValidEmail {s : SwiftString} (h : isValidEmail s = true) :
    ∀ c ∈ s, emailChar c = true := by
  obtain ⟨l, d, t, rfl, -, hl, -, hd, -, ht⟩ := isValidEmail_iff.1 h
  intro c hc
  simp only [List.mem_append, List.mem_cons] at hc
  rcases hc with hc | rfl | hc | rfl | hc
  · simp [emailChar, hl c hc]
  · rfl
  · exact emailChar_of_domain (hd c hc)
  · rfl
  · exact emailChar_of_letter (ht c hc)

theorem ne_nil_of_isValidEmail {s : SwiftString} (h : isValidEmail s = true) : s ≠ [] := by
  obtain ⟨l, d, t, rfl, -⟩ := isValidEmail_iff.1 h
  simp

/-! ## The database key -/

/-- `replacingOccurrences(of:with:)` for one-character strings. -/
def replacingOccurrences (s : SwiftString) (target replacement : Char) : SwiftString :=
  s.map fun c => if c = target then replacement else c

/-- `func safeDataBaseKey()`. -/
def safeDataBaseKey (s : SwiftString) : SwiftString :=
  let s := replacingOccurrences s '@' '-'
  let s := replacingOccurrences s '.' '-'
  let s := replacingOccurrences s '$' '-'
  let s := replacingOccurrences s '#' '-'
  let s := replacingOccurrences s '[' '-'
  replacingOccurrences s ']' '-'

/-- The six characters `safeDataBaseKey` replaces, in its order. -/
def replaced : List Char := ['@', '.', '$', '#', '[', ']']

/-- The six replacements as one function on characters. -/
def keyChar (c : Char) : Char := if c ∈ replaced then '-' else c

theorem safeDataBaseKey_eq_foldl (s : SwiftString) :
    safeDataBaseKey s = replaced.foldl (fun s c => replacingOccurrences s c '-') s := rfl

/-- Replacing a list of characters one after the other is one pass, whatever the list: `-` is put
in, so a later replacement finds nothing new unless it replaces `-` by itself. -/
theorem foldl_replacingOccurrences (order : List Char) (s : SwiftString) :
    order.foldl (fun s c => replacingOccurrences s c '-') s
      = s.map fun c => if c ∈ order then '-' else c := by
  induction order generalizing s with
  | nil => simp
  | cons d order ih =>
    rw [List.foldl_cons, ih, replacingOccurrences, List.map_map]
    refine List.map_congr_left fun c _ => ?_
    by_cases hd : c = d <;> simp [hd]

/-- **The key is the character-by-character image**, and no order of the six replacements
matters. -/
theorem safeDataBaseKey_eq_map (s : SwiftString) : safeDataBaseKey s = s.map keyChar := by
  rw [safeDataBaseKey_eq_foldl, foldl_replacingOccurrences]
  rfl

theorem foldl_perm_replaced {order : List Char} (h : order.Perm replaced) (s : SwiftString) :
    order.foldl (fun s c => replacingOccurrences s c '-') s = s.map keyChar := by
  rw [foldl_replacingOccurrences]
  exact List.map_congr_left fun c _ => if_congr h.mem_iff rfl rfl

theorem length_safeDataBaseKey (s : SwiftString) : (safeDataBaseKey s).length = s.length := by
  rw [safeDataBaseKey_eq_map, List.length_map]

/-- No replaced character is left in a key. -/
theorem not_mem_safeDataBaseKey {c : Char} (hc : c ∈ replaced) (s : SwiftString) :
    c ∉ safeDataBaseKey s := by
  rw [safeDataBaseKey_eq_map, List.mem_map]
  rintro ⟨d, -, rfl⟩
  by_cases hd : d ∈ replaced
  · rw [keyChar, if_pos hd] at hc
    exact absurd hc (by decide)
  · rw [keyChar, if_neg hd] at hc
    exact hd hc

/-- The characters that end up as `-`. -/
def foldsToDash (c : Char) : Bool := (('-' : Char) :: replaced).contains c

theorem keyChar_eq_iff {c d : Char} :
    keyChar c = keyChar d ↔ c = d ∨ foldsToDash c = true ∧ foldsToDash d = true := by
  simp only [foldsToDash, List.contains_eq_mem, decide_eq_true_eq, List.mem_cons]
  by_cases hc : c ∈ replaced <;> by_cases hd : d ∈ replaced <;> simp only [keyChar, hc, hd,
    if_true, if_false, or_true, and_self, or_false, true_and, and_true]
  · constructor
    · rintro rfl
      exact Or.inr rfl
    · rintro (rfl | rfl)
      · exact absurd hc hd
      · rfl
  · constructor
    · rintro rfl
      exact Or.inr rfl
    · rintro (rfl | rfl)
      · exact absurd hd hc
      · rfl
  · constructor
    · exact Or.inl
    · rintro (rfl | ⟨rfl, rfl⟩) <;> rfl

/-- **When two strings get one key**: position by position they agree, or both have one of
`-`, `@`, `.`, `$`, `#`, `[`, `]`. -/
def SameKey (s t : SwiftString) : Prop :=
  List.Forall₂ (fun c d => c = d ∨ foldsToDash c = true ∧ foldsToDash d = true) s t

theorem safeDataBaseKey_eq_iff {s t : SwiftString} :
    safeDataBaseKey s = safeDataBaseKey t ↔ SameKey s t := by
  rw [safeDataBaseKey_eq_map, safeDataBaseKey_eq_map, SameKey]
  simp only [← keyChar_eq_iff]
  rw [← List.forall₂_map_left_iff (R := fun c d => c = keyChar d), ← List.forall₂_map_right_iff
    (R := fun c d => c = d), List.forall₂_eq_eq_eq]

end InstaGLAM
