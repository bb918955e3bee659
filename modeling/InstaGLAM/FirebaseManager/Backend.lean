import InstaGLAM.Helpers.StringExtension
import Mathlib.Data.List.Infix
import Mathlib.Logic.Function.Basic

/-!
# FirebaseManager/Backend — what the app asks of Firebase, and how Firebase may answer

Three parts: the path a `child(_:)` call denotes and the values that may be put there (`FValidation`
and `FPath` of the vendored SDK), the requests the two managers issue with the shape of their
answers, and `Firebase.Serve`, the possible answers of the Auth and Database services with their
effect on the stores.

The Auth store is a map from email strings to passwords, so it holds at most one account per email;
the database is a tree, seen as a map from paths to records, where `setValue` replaces the record at
its path and all that is below; each client has a current user of its own.  A failing request
changes nothing.
-/

namespace InstaGLAM

open Regex

/-! ## Database paths -/

/-- A path below the database root, as its components (`FPath.pieces`). -/
abbrev Path := List SwiftString

/-- `kInvalidPathCharacters` -/
def kInvalidPathCharacters : List Char := ['[', ']', '.', '#', '$']

/-- `+[FValidation isValidPathString:]` -/
def isValidPathString (s : SwiftString) : Bool :=
  !s.isEmpty && !s.any kInvalidPathCharacters.contains

/-- The replacement of `^\/*\.info(\/|$)` by `/`. -/
def stripDotInfo (s : SwiftString) : SwiftString :=
  match ".info".toList.isPrefixOf? (s.dropWhile (· == '/')) with
  | some ('/' :: rest) => '/' :: rest
  | some rest => if atFinish ⟨some 'o', rest⟩ then '/' :: rest else s
  | none => s

/-- `+[FValidation validateFrom:validRootPathString:]`, false where it throws. -/
def isValidRootPathString (s : SwiftString) : Bool :=
  isValidPathString (if ".info".toList <:+: s then stripDotInfo s else s)

/-- `-[FPath initWith:]`: the non-empty pieces between slashes. -/
def pathWithString (s : SwiftString) : Path := (s.splitOn '/').filter (!·.isEmpty)

/-- `-[FIRDatabaseReference child:]` on the root reference; `none` is the exception it throws. -/
def child (s : SwiftString) : Option Path :=
  if isValidRootPathString s then some (pathWithString s) else none

theorem isValidRootPathString_eq {s : SwiftString} (h : '.' ∉ s) :
    isValidRootPathString s = isValidPathString s := by
  rw [isValidRootPathString, if_neg]
  exact fun hi => h (hi.subset (by decide))

/-- **A key is a valid path exactly when the email is not empty.** -/
theorem child_safeDataBaseKey (email : SwiftString) : child (safeDataBaseKey email) =
    if email = [] then none else some (pathWithString (safeDataBaseKey email)) := by
  have hvalid : isValidPathString (safeDataBaseKey email) = !email.isEmpty := by
    have hnone : (safeDataBaseKey email).any kInvalidPathCharacters.contains = false := by
      rw [List.any_eq_false]
      intro c hc hbad
      have hbad : c ∈ kInvalidPathCharacters := by simpa using hbad
      refine not_mem_safeDataBaseKey ?_ email hc
      revert hbad
      simp only [kInvalidPathCharacters, replaced, List.mem_cons, List.not_mem_nil]
      tauto
    rw [isValidPathString, hnone, safeDataBaseKey_eq_map, List.isEmpty_map]
    simp
  rw [child, isValidRootPathString_eq (not_mem_safeDataBaseKey (by decide) email), hvalid]
  cases email <;> simp

/-- A non-empty string without a slash is one path component. -/
theorem pathWithString_eq_singleton {s : SwiftString} (hne : s ≠ []) (h : '/' ∉ s) :
    pathWithString s = [s] := by
  rw [pathWithString, List.splitOn_eq_singleton h]
  simp [hne]

/-- A slash would survive in a key, but no accepted email has one. -/
theorem not_slash_mem_safeDataBaseKey {email : SwiftString} (h : isValidEmail email = true) :
    '/' ∉ safeDataBaseKey email := by
  rw [safeDataBaseKey_eq_map, List.mem_map]
  rintro ⟨c, hc, hslash⟩
  have hchar := emailChar_of_isValidEmail h c hc
  by_cases hr : c ∈ replaced
  · rw [keyChar, if_pos hr] at hslash
    exact absurd hslash (by decide)
  · rw [keyChar, if_neg hr] at hslash
    subst hslash
    exact absurd hchar (by decide)

/-- **The key of an accepted email is one path component directly below the root.** -/
theorem child_of_isValidEmail {email : SwiftString} (h : isValidEmail email = true) :
    child (safeDataBaseKey email) = some [safeDataBaseKey email] := by
  have hne : email ≠ [] := ne_nil_of_isValidEmail h
  rw [child_safeDataBaseKey, if_neg hne,
    pathWithString_eq_singleton ?_ (not_slash_mem_safeDataBaseKey h)]
  rw [← List.length_pos_iff, length_safeDataBaseKey, List.length_pos_iff]
  exact hne

/-- The key of an accepted email is the whole path. -/
theorem path_of_isValidEmail {email : SwiftString} (h : isValidEmail email = true) :
    pathWithString (safeDataBaseKey email) = [safeDataBaseKey email] := by
  have hchild := child_of_isValidEmail h
  rw [child_safeDataBaseKey, if_neg (ne_nil_of_isValidEmail h)] at hchild
  exact Option.some.inj hchild

/-! ## Values -/

/-- `kFirebaseMaxLeafSize` -/
def kFirebaseMaxLeafSize : ℕ := 1024 * 1024 * 10

/-- `-lengthOfBytesUsingEncoding:` for UTF-8. -/
def utf8Length : SwiftString → ℕ
  | [] => 0
  | c :: s => c.utf8Size + utf8Length s

/-- `+[FValidation validateFrom:isValidLeafValue:withPath:]` of a string, false where it throws.
The bound that is tried first, `maximumLengthOfBytesUsingEncoding:`, is never below the length. -/
def isValidLeafValue (s : SwiftString) : Bool := utf8Length s ≤ kFirebaseMaxLeafSize

/-- `+[FValidation validateFrom:writablePath:]`, false where it throws. -/
def isWritablePath (path : Path) : Bool := path.head? != some ".info".toList

theorem utf8Length_replicate (n : ℕ) (c : Char) :
    utf8Length (List.replicate n c) = n * c.utf8Size := by
  induction n with
  | zero => exact (Nat.zero_mul _).symm
  | succ n ih => rw [List.replicate_succ, utf8Length, ih, Nat.succ_mul, Nat.add_comm]

/-- A piece between separators has only characters of the whole. -/
theorem mem_of_mem_splitOn {c sep : Char} {s piece : SwiftString} (h : piece ∈ s.splitOn sep)
    (hc : c ∈ piece) : c ∈ s := by
  induction s generalizing piece with
  | nil =>
    rw [List.splitOn_nil, List.mem_singleton] at h
    exact h ▸ hc
  | cons d s ih =>
    rw [List.splitOn_cons_eq_if_modifyHead] at h
    split at h
    · rcases List.mem_cons.1 h with rfl | h
      · exact absurd hc List.not_mem_nil
      · exact List.mem_cons_of_mem _ (ih h hc)
    · cases hs : s.splitOn sep with
      | nil => exact absurd hs (List.splitOn_ne_nil _ _)
      | cons head rest =>
        rw [hs, List.modifyHead_cons] at h
        rcases List.mem_cons.1 h with rfl | h
        · rcases List.mem_cons.1 hc with rfl | hc
          · exact List.mem_cons_self
          · exact List.mem_cons_of_mem _ (ih (hs ▸ List.mem_cons_self) hc)
        · exact List.mem_cons_of_mem _ (ih (hs ▸ List.mem_cons_of_mem _ h) hc)

/-- The path of a key is writable: no key has a dot. -/
theorem isWritablePath_safeDataBaseKey (email : SwiftString) :
    isWritablePath (pathWithString (safeDataBaseKey email)) = true := by
  rw [isWritablePath, bne_iff_ne]
  intro hhead
  have hpiece : ".info".toList ∈ (safeDataBaseKey email).splitOn '/' :=
    List.mem_of_mem_filter (List.mem_of_mem_head? hhead)
  exact not_mem_safeDataBaseKey (by decide) email (mem_of_mem_splitOn hpiece (c := '.') (by decide))

/-! ## Requests and answers -/

/-- The dictionary `["username": username]` stored for a user. -/
structure UserRecord where
  username : SwiftString
  deriving DecidableEq

/-- What becomes of the record at `q` when the dictionary of a record is put at `p`: `none` for a
record that stays.  A record below `p` goes with the old node there, and one that has `p` at or
below its `username` has no string there any more. -/
def overwritten (p : Path) (value : UserRecord) (q : Path) : Option (Option UserRecord) :=
  if q = p then some (some value)
  else if p <+: q ∨ q ++ ["username".toList] <+: p then some none
  else none

@[simp] theorem overwritten_self (p : Path) (value : UserRecord) :
    overwritten p value p = some (some value) := if_pos rfl

/-- Paths of one component do not reach each other. -/
theorem overwritten_singleton {s s' : SwiftString} (h : s' ≠ s) (value : UserRecord) :
    overwritten [s] value [s'] = none := by
  rw [overwritten, if_neg (by simpa using h), if_neg]
  rintro (hbelow | habove)
  · exact h (by simpa [eq_comm] using hbelow)
  · simpa using habove.length_le

/-- A write leaves no record but its own where it reaches. -/
theorem eq_of_overwritten {p q : Path} {value r : UserRecord}
    (h : overwritten p value q = some (some r)) : q = p ∧ r = value := by
  rw [overwritten] at h
  split at h
  next hq => exact ⟨hq, (Option.some.inj (Option.some.inj h)).symm⟩
  next =>
    split at h
    · exact absurd (Option.some.inj h) (Option.some_ne_none r).symm
    · exact absurd h.symm (Option.some_ne_none _)

/-- What the app asks of Firebase. -/
inductive Request where
  | createUser (email password : SwiftString)
  | signIn (email password : SwiftString)
  | signOut
  | currentUser
  | setValue (path : Path) (value : UserRecord)
  deriving DecidableEq

/-- The two optional arguments of an answer; the app reads only whether they are `nil`.  A thrown
error is an `error` too. -/
structure Reply where
  result : Bool
  error : Bool
  deriving DecidableEq

/-- The answer of a request that went well. -/
def Reply.success : Reply := ⟨true, false⟩

/-- The answer of a request that failed. -/
def Reply.failure : Reply := ⟨false, true⟩

/-- `result != nil && error == nil`. -/
def Reply.ok (a : Reply) : Bool := a.result && !a.error

/-- The requests `FIRAuth` answers itself, with an error: an empty password, and an empty email for
a new account. -/
def Request.refused : Request → Bool
  | .createUser email password => password.isEmpty || email.isEmpty
  | .signIn _ password => password.isEmpty
  | .signOut | .currentUser | .setValue _ _ => false

/-- The Auth store, the database, and who is signed in on each client. -/
structure Firebase (κ : Type*) where
  accounts : SwiftString → Option SwiftString
  records : Path → Option UserRecord
  currentUser : κ → Option SwiftString

namespace Firebase

variable {κ : Type*} [DecidableEq κ]

/-- A new account, signed in on the client that created it. -/
def createAccount (fb : Firebase κ) (c : κ) (email password : SwiftString) : Firebase κ where
  accounts := Function.update fb.accounts email (some password)
  records := fb.records
  currentUser := Function.update fb.currentUser c (some email)

/-- Replace the current user of one client. -/
def setCurrentUser (fb : Firebase κ) (c : κ) (user : Option SwiftString) : Firebase κ :=
  { fb with currentUser := Function.update fb.currentUser c user }

omit [DecidableEq κ] in
/-- `setValue` replaces the node at a path by the dictionary of a record. -/
def setRecord (fb : Firebase κ) (path : Path) (value : UserRecord) : Firebase κ :=
  { fb with records := fun q => (overwritten path value q).getD (fb.records q) }

@[simp] theorem createAccount_accounts_self (fb : Firebase κ) (c : κ) (e p : SwiftString) :
    (fb.createAccount c e p).accounts e = some p := Function.update_self ..

theorem createAccount_accounts_of_ne {fb : Firebase κ} {c : κ} {e e' p : SwiftString}
    (h : e' ≠ e) : (fb.createAccount c e p).accounts e' = fb.accounts e' :=
  Function.update_of_ne h ..

@[simp] theorem createAccount_records (fb : Firebase κ) (c : κ) (e p : SwiftString) :
    (fb.createAccount c e p).records = fb.records := rfl

@[simp] theorem createAccount_currentUser (fb : Firebase κ) (c : κ) (e p : SwiftString) :
    (fb.createAccount c e p).currentUser c = some e := Function.update_self ..

@[simp] theorem setCurrentUser_currentUser (fb : Firebase κ) (c : κ) (u : Option SwiftString) :
    (fb.setCurrentUser c u).currentUser c = u := Function.update_self ..

section Record

omit [DecidableEq κ]

@[simp] theorem setRecord_accounts (fb : Firebase κ) (p : Path) (v : UserRecord) :
    (fb.setRecord p v).accounts = fb.accounts := rfl

@[simp] theorem setRecord_currentUser (fb : Firebase κ) (p : Path) (v : UserRecord) :
    (fb.setRecord p v).currentUser = fb.currentUser := rfl

@[simp] theorem setRecord_records_self (fb : Firebase κ) (p : Path) (v : UserRecord) :
    (fb.setRecord p v).records p = some v := by
  simp only [setRecord, overwritten_self, Option.getD_some]

/-- What a write does not reach stays as it is. -/
theorem setRecord_records_of_none {fb : Firebase κ} {p q : Path} {v : UserRecord}
    (h : overwritten p v q = none) : (fb.setRecord p v).records q = fb.records q := by
  simp only [setRecord, h, Option.getD_none]

/-- What a write reaches elsewhere is gone. -/
theorem setRecord_records_of_some {fb : Firebase κ} {p q : Path} {v : UserRecord}
    (h : overwritten p v q = some none) : (fb.setRecord p v).records q = none := by
  simp only [setRecord, h, Option.getD_some]

/-- A record that is there after a write is an old one out of its reach, or its own. -/
theorem records_of_setRecord {fb : Firebase κ} {p q : Path} {v r : UserRecord}
    (h : (fb.setRecord p v).records q = some r) :
    overwritten p v q = none ∧ fb.records q = some r ∨ q = p ∧ r = v := by
  cases ho : overwritten p v q with
  | none => exact Or.inl ⟨rfl, (setRecord_records_of_none ho).symm.trans h⟩
  | some left =>
    cases left with
    | none =>
      exact absurd ((setRecord_records_of_some ho).symm.trans h) (Option.some_ne_none r).symm
    | some r' =>
      obtain ⟨rfl, rfl⟩ := eq_of_overwritten ho
      exact Or.inr ⟨rfl, (Option.some.inj ((setRecord_records_self ..).symm.trans h)).symm⟩

end Record

/-- **The answers Firebase may give to client `c`**, with what each does to the stores.  A request
that could succeed may fail all the same. -/
inductive Serve (c : κ) : Request → Reply → Firebase κ → Firebase κ → Prop
  | created {fb a email password} : Reply.ok a = true → fb.accounts email = none →
      Serve c (.createUser email password) a fb (fb.createAccount c email password)
  | notCreated {fb a email password} : Reply.ok a = false →
      Serve c (.createUser email password) a fb fb
  | signedIn {fb a email password} : Reply.ok a = true → fb.accounts email = some password →
      Serve c (.signIn email password) a fb (fb.setCurrentUser c (some email))
  | notSignedIn {fb a email password} : Reply.ok a = false →
      Serve c (.signIn email password) a fb fb
  | signedOut {fb a} : a.error = false → Serve c .signOut a fb (fb.setCurrentUser c none)
  | notSignedOut {fb a} : a.error = true → Serve c .signOut a fb fb
  | current {fb a} : a.result = (fb.currentUser c).isSome → Serve c .currentUser a fb fb
  | written {fb a path value} : a.error = false →
      Serve c (.setValue path value) a fb (fb.setRecord path value)
  | notWritten {fb a path value} : a.error = true → Serve c (.setValue path value) a fb fb

/-- Firebase with both services up: every request that can succeed does. -/
def answer (c : κ) : Request → Firebase κ → Reply × Firebase κ
  | .createUser email password, fb =>
    if fb.accounts email = none then (.success, fb.createAccount c email password)
    else (.failure, fb)
  | .signIn email password, fb =>
    if fb.accounts email = some password then (.success, fb.setCurrentUser c (some email))
    else (.failure, fb)
  | .signOut, fb => (.success, fb.setCurrentUser c none)
  | .currentUser, fb => (⟨(fb.currentUser c).isSome, false⟩, fb)
  | .setValue path value, fb => (.success, fb.setRecord path value)

/-- The prompt answer is one of the possible ones. -/
theorem serve_answer (c : κ) (r : Request) (fb : Firebase κ) :
    Serve c r (answer c r fb).1 fb (answer c r fb).2 := by
  cases r with
  | createUser email password =>
    by_cases h : fb.accounts email = none
    · simp only [answer, h, if_true]
      exact .created rfl h
    · simp only [answer, h, if_false]
      exact .notCreated rfl
  | signIn email password =>
    by_cases h : fb.accounts email = some password
    · simp only [answer, h, if_true]
      exact .signedIn rfl h
    · simp only [answer, h, if_false]
      exact .notSignedIn rfl
  | signOut => exact .signedOut rfl
  | currentUser => exact .current rfl
  | setValue path value => exact .written rfl

end Firebase

end InstaGLAM
