import InstaGLAM.FirebaseManager.Completion
import InstaGLAM.Machinery.History

/-!
# FirebaseManager/Accounts — what any number of clients can rely on

    calls of all clients ──history──▸ accounts, records, users ──▸ what a report of true means

Registrations, logins, logouts and record writes of any number of clients share one Firebase, and
their requests are answered in any order.  The history of a run (`Machinery/History`) says which
requests were answered, so what the stores hold is accounted for (`accounted_of_reachable`), and
completions that report true for one email agree on its password (`accountsAgree`).
-/

namespace InstaGLAM

open Callback

variable {ι κ : Type*}

/-! ## The services over a history -/

namespace Firebase

variable [DecidableEq κ] {c : κ} {r : Request} {a : Reply} {fb fb' : Firebase κ}
  {email password : SwiftString} {path : Path} {value : UserRecord}

/-- An answer takes no account away, and makes one for a `createUser` only. -/
theorem accounts_serve (h : Serve c r a fb fb') (email : SwiftString) :
    fb'.accounts email = fb.accounts email ∨ fb.accounts email = none ∧
      ∃ password, fb'.accounts email = some password ∧ r = .createUser email password ∧
        a.ok = true := by
  cases h with
  | @created _ _ email' password hok hfree =>
    by_cases he : email = email'
    · subst he
      exact Or.inr ⟨hfree, password, createAccount_accounts_self .., rfl, hok⟩
    · exact Or.inl (createAccount_accounts_of_ne he)
  | _ => exact Or.inl rfl

/-- A record that is there after an answer was there before, or is the value of a `setValue`. -/
theorem records_serve (h : Serve c r a fb fb') (hrec : fb'.records path = some value) :
    fb.records path = some value ∨ r = .setValue path value ∧ a.error = false := by
  cases h with
  | written hok =>
    rcases records_of_setRecord hrec with ⟨-, hold⟩ | ⟨rfl, rfl⟩
    · exact Or.inl hold
    · exact Or.inr ⟨rfl, hok⟩
  | _ => exact Or.inl hrec

/-- A record goes only where a `setValue` to another path reaches it. -/
theorem records_gone (h : Serve c r a fb fb') (hrec : (fb.records path).isSome) :
    (fb'.records path).isSome ∨ ∃ path' value', r = .setValue path' value' ∧ a.error = false ∧
      overwritten path' value' path = some none := by
  cases h with
  | @written _ _ path' value' hok =>
    cases ho : overwritten path' value' path with
    | none => exact Or.inl ((congrArg Option.isSome (setRecord_records_of_none ho)).trans hrec)
    | some left =>
      cases left with
      | none => exact Or.inr ⟨path', value', rfl, hok, ho⟩
      | some r' =>
        obtain ⟨rfl, -⟩ := eq_of_overwritten ho
        exact Or.inl (Option.isSome_of_eq_some (setRecord_records_self ..))
  | _ => exact Or.inl hrec

/-- An answer signs in the client it is given to, with an account that is there. -/
theorem currentUser_serve (h : Serve c r a fb fb') {c' : κ}
    (huser : fb'.currentUser c' = some email) : fb.currentUser c' = some email ∨ c' = c ∧
      ∃ password, fb'.accounts email = some password ∧
        (r = .createUser email password ∨ r = .signIn email password) ∧ a.ok = true := by
  by_cases hc : c' = c
  · subst hc
    cases h with
    | created hok hfree =>
      obtain rfl := Option.some.inj ((createAccount_currentUser ..).symm.trans huser)
      exact Or.inr ⟨rfl, _, createAccount_accounts_self .., Or.inl rfl, hok⟩
    | signedIn hok hpassword =>
      obtain rfl := Option.some.inj ((setCurrentUser_currentUser ..).symm.trans huser)
      exact Or.inr ⟨rfl, _, hpassword, Or.inr rfl, hok⟩
    | signedOut => exact nomatch (setCurrentUser_currentUser ..).symm.trans huser
    | _ => exact Or.inl huser
  · have hsame : fb'.currentUser c' = fb.currentUser c' := by
      cases h with
      | created | signedIn | signedOut => exact Function.update_of_ne hc ..
      | _ => rfl
    exact Or.inl (hsame.symm.trans huser)

variable {client : ι → κ} {history : List (Served ι Request Reply)}

/-- The Firebase made of `fb` by a history. -/
abbrev After (client : ι → κ) (fb : Firebase κ) (history : List (Served ι Request Reply))
    (fb' : Firebase κ) : Prop := Serves (fun i => Serve (client i)) fb history fb'

/-- One answer takes no password away. -/
theorem accounts_kept (h : Serve c r a fb fb') (hacc : fb.accounts email = some password) :
    fb'.accounts email = some password := by
  rcases accounts_serve h email with heq | ⟨hnone, -⟩
  · exact heq.trans hacc
  · exact nomatch hnone.symm.trans hacc

/-- **Accounts stay**, each with its password. -/
theorem After.kept (h : After client fb history fb') (hacc : fb.accounts email = some password) :
    fb'.accounts email = some password := by
  induction h with
  | nil => exact hacc
  | cons _ hserve ih => exact accounts_kept hserve ih

/-- What a successful request says of the accounts it leaves. -/
theorem After.holds (h : After client fb history fb') {i : ι}
    (hmem : ⟨i, .createUser email password, a⟩ ∈ history ∨ ⟨i, .signIn email password, a⟩ ∈ history)
    (hok : a.ok = true) : fb'.accounts email = some password := by
  induction h with
  | nil => exact hmem.elim (fun h => nomatch h) fun h => nomatch h
  | cons _ hserve ih =>
    rcases hmem with hmem | hmem
    · rcases List.mem_cons.1 hmem with rfl | hmem
      · cases hserve with
        | created => exact createAccount_accounts_self ..
        | notCreated hfail => exact nomatch hok.symm.trans hfail
      · exact accounts_kept hserve (ih (Or.inl hmem))
    · rcases List.mem_cons.1 hmem with rfl | hmem
      · cases hserve with
        | signedIn _ hpassword => exact hpassword
        | notSignedIn hfail => exact nomatch hok.symm.trans hfail
      · exact accounts_kept hserve (ih (Or.inr hmem))

/-- **An email is registered once**: of all calls at most one gets its account. -/
theorem After.once (h : After client fb history fb') {i j : ι} {password' : SwiftString}
    {a' : Reply} (hi : ⟨i, .createUser email password, a⟩ ∈ history) (hok : a.ok = true)
    (hj : ⟨j, .createUser email password', a'⟩ ∈ history) (hok' : a'.ok = true) : i = j := by
  have hfree : ∀ {k : ι} {p : SwiftString} {b : Reply} {s s' : Firebase κ}, b.ok = true →
      Serve (client k) (.createUser email p) b s s' → s.accounts email = none := by
    intro k p b s s' hb hserve
    cases hserve with
    | created _ hfree => exact hfree
    | notCreated hfail => exact nomatch hb.symm.trans hfail
  induction h with
  | nil => exact nomatch hi
  | cons hs hserve ih =>
    rcases List.mem_cons.1 hi with hxi | hi'
    · subst hxi
      rcases List.mem_cons.1 hj with hxj | hj'
      · exact (Served.mk.inj hxj).1.symm
      · exact nomatch (hfree hok hserve).symm.trans (After.holds hs (Or.inl hj') hok')
    · rcases List.mem_cons.1 hj with hxj | hj'
      · subst hxj
        exact nomatch (hfree hok' hserve).symm.trans (After.holds hs (Or.inl hi') hok)
      · exact ih hi' hj'

/-- Every account is an old one or has been created. -/
theorem After.created (h : After client fb history fb')
    (hacc : fb'.accounts email = some password) :
    fb.accounts email = some password ∨
      ∃ i a, ⟨i, .createUser email password, a⟩ ∈ history ∧ a.ok = true := by
  induction h with
  | nil => exact Or.inl hacc
  | @cons history s x s' _ hserve ih =>
    rcases accounts_serve hserve email with heq | ⟨-, p, hp, hr, hok⟩
    · exact (ih (heq.symm.trans hacc)).imp_right fun ⟨i, a, hmem, hok⟩ =>
        ⟨i, a, List.mem_cons_of_mem _ hmem, hok⟩
    · obtain rfl := Option.some.inj (hp.symm.trans hacc)
      exact Or.inr ⟨x.thread, x.answer, by rw [← hr]; exact List.mem_cons_self, hok⟩

/-- Every record is an old one or has been written. -/
theorem After.written (h : After client fb history fb') (hrec : fb'.records path = some value) :
    fb.records path = some value ∨
      ∃ i a, ⟨i, .setValue path value, a⟩ ∈ history ∧ a.error = false := by
  induction h with
  | nil => exact Or.inl hrec
  | @cons history s x s' _ hserve ih =>
    rcases records_serve hserve hrec with hold | ⟨hr, hok⟩
    · exact (ih hold).imp_right fun ⟨i, a, hmem, hok⟩ =>
        ⟨i, a, List.mem_cons_of_mem _ hmem, hok⟩
    · exact Or.inr ⟨x.thread, x.answer, by rw [← hr]; exact List.mem_cons_self, hok⟩

/-- A record that has been written stays, or is replaced by another, or goes with a node that a
write to another path replaces. -/
theorem After.stays (h : After client fb history fb') {i : ι}
    (hmem : ⟨i, .setValue path value, a⟩ ∈ history) (hok : a.error = false) :
    (fb'.records path).isSome ∨ ∃ j path' value' a', ⟨j, .setValue path' value', a'⟩ ∈ history ∧
      a'.error = false ∧ overwritten path' value' path = some none := by
  induction h with
  | nil => exact nomatch hmem
  | @cons history s x s' _ hserve ih =>
    rcases List.mem_cons.1 hmem with rfl | hearlier
    · cases hserve with
      | written => exact Or.inl (Option.isSome_of_eq_some (setRecord_records_self ..))
      | notWritten hfail => exact nomatch hok.symm.trans hfail
    · rcases ih hearlier with hrec | ⟨j, path', value', a', hmem', hok', hout⟩
      · refine (records_gone hserve hrec).imp_right ?_
        rintro ⟨path', value', hr, hok', hout⟩
        exact ⟨x.thread, path', value', x.answer, by rw [← hr]; exact List.mem_cons_self, hok',
          hout⟩
      · exact Or.inr ⟨j, path', value', a', List.mem_cons_of_mem _ hmem', hok', hout⟩

/-- Whoever is signed in was so before, or has been signed in by a request of that client. -/
theorem After.signedIn (h : After client fb history fb') (huser : fb'.currentUser c = some email) :
    fb.currentUser c = some email ∨ ∃ i password a, client i = c ∧ a.ok = true ∧
      (⟨i, .createUser email password, a⟩ ∈ history ∨
        ⟨i, .signIn email password, a⟩ ∈ history) := by
  induction h with
  | nil => exact Or.inl huser
  | @cons history s x s' _ hserve ih =>
    rcases currentUser_serve hserve huser with hold | ⟨rfl, password, -, hr, hok⟩
    · refine (ih hold).imp_right ?_
      rintro ⟨i, password, a, hc, hok, hmem⟩
      exact ⟨i, password, a, hc, hok,
        hmem.imp (List.mem_cons_of_mem _) (List.mem_cons_of_mem _)⟩
    · refine Or.inr ⟨x.thread, password, x.answer, rfl, hok, ?_⟩
      exact hr.imp (fun hr => by rw [← hr]; exact List.mem_cons_self)
        fun hr => by rw [← hr]; exact List.mem_cons_self

end Firebase

/-! ## Calls of any number of clients -/

/-- A call to a manager, and the client that makes it. -/
structure ClientCall (κ : Type*) where
  client : κ
  call : AccountCall

/-- The calls `calls`, each made at most once, against one Firebase. -/
def clientSystem [DecidableEq κ] (calls : ι → ClientCall κ) :
    System ι Request Reply Bool (ClientCall κ) (Firebase κ) where
  program t := t.call.program
  enabled i t _ := t = calls i
  serve t := Firebase.Serve t.client
  perform _ fb := fb

/-- Call `i` has been made. -/
def Made (w : World ι Request Reply Bool (ClientCall κ) (Firebase κ)) (i : ι) : Prop :=
  (w.threads i).isSome

/-- Call `i` has completed with `b`. -/
def Completed (w : World ι Request Reply Bool (ClientCall κ) (Firebase κ)) (i : ι) (b : Bool) :
    Prop :=
  ∃ th, w.threads i = some th ∧ th.log = [b]

/-- What a call gives as an email and its password. -/
def AccountCall.credentials : AccountCall → Option (SwiftString × SwiftString)
  | .registerNewUser _ email password => some (email, password)
  | .loginUser _ (some email) password => some (email, password)
  | .loginUser _ none _ | .logout | .insertNewUser _ _ => none

/-- The path a call writes to, and what it writes. -/
def AccountCall.writes : AccountCall → Option (Path × UserRecord)
  | .registerNewUser username email _ =>
    some (pathWithString (safeDataBaseKey email), ⟨username⟩)
  | .insertNewUser email username => some (pathWithString (safeDataBaseKey email), ⟨username⟩)
  | .loginUser _ _ _ | .logout => none

/-- The call registers a user. -/
def AccountCall.Registers : AccountCall → Prop
  | .registerNewUser _ _ _ => True
  | _ => False

/-! ### Where a call is, by its own answers -/

section Replays

variable {past : List (Request × Reply)} {es : List Bool} {ws : List (Waiting Request Reply Bool)}
  {username email password : SwiftString}

theorem sequential_program (c : AccountCall) : c.program.Sequential := by
  have hinsert : ∀ email username,
      (DatabaseManager.insertNewUser email username report).Sequential := by
    intro email username
    by_cases hcan : DatabaseManager.CanInsert email username
    · rw [DatabaseManager.insertNewUser_of_canInsert hcan]
      refine ⟨rfl, fun reply => ?_⟩
      rw [DatabaseManager.didSetValue_eq]
      trivial
    · rw [DatabaseManager.insertNewUser_of_not hcan]
      trivial
  cases c with
  | registerNewUser username email password =>
    refine ⟨rfl, fun reply => ?_⟩
    cases hok : reply.ok with
    | false =>
      rw [AuthManager.didCreateUser_of_not_ok hok]
      trivial
    | true =>
      rw [AuthManager.didCreateUser_of_ok hok]
      exact hinsert ..
  | loginUser username email password =>
    cases email with
    | none => cases username <;> trivial
    | some email =>
      refine ⟨rfl, fun reply => ?_⟩
      rw [AuthManager.didSignIn_eq]
      trivial
  | logout =>
    rw [AccountCall.program, AuthManager.logout_eq]
    exact fun _ => trivial
  | insertNewUser email username => exact hinsert ..

theorem replays_report {b : Bool} :
    Replays (report b) past es ws ↔ past = [] ∧ es = [b] ∧ ws = [] := replays_emit_done

/-- `insertNewUser` waits, has raised, or has reported its one answer. -/
theorem replays_insertNewUser
    (h : Replays (DatabaseManager.insertNewUser email username report) past es ws) :
    past = [] ∧ es = [] ∨ ∃ reply, es = [!reply.error] ∧
      past = [(.setValue (pathWithString (safeDataBaseKey email)) ⟨username⟩, reply)] := by
  by_cases hcan : DatabaseManager.CanInsert email username
  · rw [DatabaseManager.insertNewUser_of_canInsert hcan, replays_request] at h
    rcases h with ⟨hpast, hes, -⟩ | ⟨reply, past', rfl, h⟩
    · exact Or.inl ⟨hpast, hes⟩
    · rw [DatabaseManager.didSetValue_eq, replays_report] at h
      obtain ⟨rfl, rfl, -⟩ := h
      exact Or.inr ⟨reply, rfl, rfl⟩
  · rw [DatabaseManager.insertNewUser_of_not hcan, replays_raise] at h
    exact Or.inl ⟨h.1, h.2.1⟩

/-- `registerNewUser` waits, has been refused, or goes on as `insertNewUser`. -/
theorem replays_registerNewUser
    (h : Replays (AuthManager.registerNewUser username email password report) past es ws) :
    past = [] ∧ es = [] ∨ ∃ reply past', past = (.createUser email password, reply) :: past' ∧
      (reply.ok = false ∧ past' = [] ∧ es = [false] ∨
        reply.ok = true ∧
          Replays (DatabaseManager.insertNewUser email username report) past' es ws) := by
  rw [AuthManager.registerNewUser_eq, replays_request] at h
  rcases h with ⟨hpast, hes, -⟩ | ⟨reply, past', rfl, h⟩
  · exact Or.inl ⟨hpast, hes⟩
  · refine Or.inr ⟨reply, past', rfl, ?_⟩
    cases hok : reply.ok with
    | false =>
      rw [AuthManager.didCreateUser_of_not_ok hok, replays_report] at h
      exact Or.inl ⟨rfl, h.1, h.2.1⟩
    | true =>
      rw [AuthManager.didCreateUser_of_ok hok] at h
      exact Or.inr ⟨rfl, h⟩

/-- `loginUser` waits, or has reported its one answer; without an email it does nothing. -/
theorem replays_loginUser {username email : Option SwiftString}
    (h : Replays (AuthManager.loginUser username email password report) past es ws) :
    past = [] ∧ es = [] ∨ ∃ e reply, email = some e ∧ past = [(.signIn e password, reply)] ∧
      es = [reply.ok] := by
  cases email with
  | none =>
    have hdone : AuthManager.loginUser username none password report = .done := by
      cases username <;> rfl
    rw [hdone, replays_done] at h
    exact Or.inl ⟨h.1, h.2.1⟩
  | some e =>
    rw [AuthManager.loginUser, replays_request] at h
    rcases h with ⟨hpast, hes, -⟩ | ⟨reply, past', rfl, h⟩
    · exact Or.inl ⟨hpast, hes⟩
    · rw [AuthManager.didSignIn_eq, replays_report] at h
      obtain ⟨rfl, rfl, -⟩ := h
      exact Or.inr ⟨e, reply, rfl, rfl, rfl⟩

/-- `logout` has reported its answer. -/
theorem replays_logout (h : Replays (AuthManager.logout report) past es ws) :
    ∃ reply, past = [(.signOut, reply)] ∧ es = [!reply.error] := by
  rw [AuthManager.logout_eq, replays_call] at h
  obtain ⟨reply, past', rfl, h⟩ := h
  obtain ⟨rfl, rfl, -⟩ := replays_report.1 h
  exact ⟨reply, rfl, rfl⟩

/-- A call asks for what it is about, and reports what has become of its record. -/
def AccountCall.Asks (c : AccountCall) (es : List Bool) (reply : Reply) : Request → Prop
  | .createUser email password => c.credentials = some (email, password) ∧ c.Registers
  | .signIn email password => c.credentials = some (email, password)
  | .setValue path value => c.writes = some (path, value) ∧ es = [!reply.error]
  | .signOut | .currentUser => True

theorem asks_of_replays {c : AccountCall} (h : Replays c.program past es ws) {r : Request}
    {reply : Reply} (hmem : (r, reply) ∈ past) : c.Asks es reply r := by
  cases c with
  | registerNewUser username email password =>
    rcases replays_registerNewUser h with ⟨rfl, -⟩ | ⟨reply', past', rfl, hreply⟩
    · exact nomatch hmem
    · rcases List.mem_cons.1 hmem with heq | hlater
      · obtain ⟨rfl, rfl⟩ := Prod.mk.inj heq
        exact ⟨rfl, trivial⟩
      · rcases hreply with ⟨-, rfl, -⟩ | ⟨-, hinsert⟩
        · exact nomatch hlater
        · rcases replays_insertNewUser hinsert with ⟨rfl, -⟩ | ⟨reply', hes, rfl⟩
          · exact nomatch hlater
          · obtain ⟨rfl, rfl⟩ := Prod.mk.inj (List.mem_singleton.1 hlater)
            exact ⟨rfl, hes⟩
  | loginUser username email password =>
    rcases replays_loginUser h with ⟨rfl, -⟩ | ⟨e, reply', rfl, rfl, -⟩
    · exact nomatch hmem
    · obtain ⟨rfl, rfl⟩ := Prod.mk.inj (List.mem_singleton.1 hmem)
      rfl
  | logout =>
    obtain ⟨reply', rfl, -⟩ := replays_logout h
    obtain ⟨rfl, rfl⟩ := Prod.mk.inj (List.mem_singleton.1 hmem)
    trivial
  | insertNewUser email username =>
    rcases replays_insertNewUser h with ⟨rfl, -⟩ | ⟨reply', hes, rfl⟩
    · exact nomatch hmem
    · obtain ⟨rfl, rfl⟩ := Prod.mk.inj (List.mem_singleton.1 hmem)
      exact ⟨rfl, hes⟩

end Replays

/-! ## What the calls are told, and what they leave -/

section Runs

variable [DecidableEq ι] [DecidableEq κ] {calls : ι → ClientCall κ} {fb : Firebase κ}
  {w : World ι Request Reply Bool (ClientCall κ) (Firebase κ)} {i j : ι}
  {history : List (Served ι Request Reply)}

theorem exists_history (h : Reachable (clientSystem calls) (World.initial fb) w) :
    ∃ history, Explains (clientSystem calls) calls fb history w :=
  h.history (fun _ _ _ heq => heq) (fun _ _ => rfl) fun i => sequential_program (calls i).call

/-- **A report of true is the answer of a request that went well.** -/
theorem asked_of_completed (h : Explains (clientSystem calls) calls fb history w)
    (hi : Completed w i true) {email password : SwiftString}
    (hcred : (calls i).call.credentials = some (email, password)) : ∃ reply, reply.ok = true ∧
      (⟨i, .createUser email password, reply⟩ ∈ history ∧ (calls i).call.Registers ∨
        ⟨i, .signIn email password, reply⟩ ∈ history ∧ ¬ (calls i).call.Registers) := by
  obtain ⟨th, hth, hlog⟩ := hi
  have hreplays := h.replays i th hth
  change Replays (calls i).call.program _ _ _ at hreplays
  rw [hlog] at hreplays
  cases hcall : (calls i).call with
  | registerNewUser username e p =>
    rw [hcall] at hcred hreplays
    obtain ⟨rfl, rfl⟩ := Prod.mk.inj (Option.some.inj hcred)
    rcases replays_registerNewUser hreplays with ⟨-, hes⟩ | ⟨reply, past', hpast, hreply⟩
    · exact nomatch hes
    · rcases hreply with ⟨-, -, hes⟩ | ⟨hok, -⟩
      · exact nomatch hes
      · exact ⟨reply, hok, Or.inl ⟨mem_own.1 (hpast ▸ List.mem_cons_self), trivial⟩⟩
  | loginUser username e p =>
    rw [hcall] at hcred hreplays
    rcases replays_loginUser hreplays with ⟨-, hes⟩ | ⟨e', reply, rfl, hpast, hes⟩
    · exact nomatch hes
    · obtain ⟨rfl, rfl⟩ := Prod.mk.inj (Option.some.inj hcred)
      exact ⟨reply, (List.cons.inj hes).1.symm,
        Or.inr ⟨mem_own.1 (hpast ▸ List.mem_cons_self), id⟩⟩
  | logout | insertNewUser _ _ =>
    rw [hcall] at hcred
    exact nomatch hcred

/-- A report of true for a record is the answer of its `setValue`. -/
theorem written_of_completed (h : Explains (clientSystem calls) calls fb history w)
    (hi : Completed w i true) {path : Path} {value : UserRecord}
    (hwrites : (calls i).call.writes = some (path, value)) :
    ∃ reply, reply.error = false ∧ ⟨i, .setValue path value, reply⟩ ∈ history := by
  obtain ⟨th, hth, hlog⟩ := hi
  have hreplays := h.replays i th hth
  change Replays (calls i).call.program _ _ _ at hreplays
  rw [hlog] at hreplays
  have hinsert : ∀ {username email past ws}, (∀ x ∈ past, x ∈ own i history) →
      Replays (DatabaseManager.insertNewUser email username report) past [true] ws →
      some (pathWithString (safeDataBaseKey email), (⟨username⟩ : UserRecord)) =
        some (path, value) →
      ∃ reply, reply.error = false ∧ ⟨i, .setValue path value, reply⟩ ∈ history := by
    intro username email past ws hpast h heq
    obtain ⟨rfl, rfl⟩ := Prod.mk.inj (Option.some.inj heq)
    rcases replays_insertNewUser h with ⟨-, hes⟩ | ⟨reply, hes, rfl⟩
    · exact nomatch hes
    · exact ⟨reply, by simpa using hes, mem_own.1 (hpast _ List.mem_cons_self)⟩
  cases hcall : (calls i).call with
  | registerNewUser username email password =>
    rw [hcall] at hwrites hreplays
    rcases replays_registerNewUser hreplays with ⟨-, hes⟩ | ⟨reply, past', hpast, hreply⟩
    · exact nomatch hes
    · rcases hreply with ⟨-, -, hes⟩ | ⟨-, h⟩
      · exact nomatch hes
      · exact hinsert (fun x hx => hpast ▸ List.mem_cons_of_mem _ hx) h hwrites
  | insertNewUser email username =>
    rw [hcall] at hwrites hreplays
    exact hinsert (fun x hx => hx) hreplays hwrites
  | logout | loginUser _ _ _ =>
    rw [hcall] at hwrites
    exact nomatch hwrites

/-- Whatever has been answered was asked by a call that has been made. -/
theorem asks_of_mem (h : Explains (clientSystem calls) calls fb history w) {r : Request}
    {reply : Reply} (hmem : ⟨i, r, reply⟩ ∈ history) :
    ∃ th, w.threads i = some th ∧ (calls i).call.Asks th.log reply r := by
  have hown := mem_own.2 hmem
  cases hth : w.threads i with
  | none =>
    rw [h.idle i hth] at hown
    exact nomatch hown
  | some th => exact ⟨th, rfl, asks_of_replays (h.replays i th hth) hown⟩

/-- **Reports of true agree**: calls that report true for one email have given its one password,
which is in the store, and at most one of them is a registration. -/
theorem accountsAgree (h : Reachable (clientSystem calls) (World.initial fb) w)
    {email password password' : SwiftString} (hi : Completed w i true) (hj : Completed w j true)
    (hci : (calls i).call.credentials = some (email, password))
    (hcj : (calls j).call.credentials = some (email, password')) :
    password = password' ∧ w.store.accounts email = some password ∧
      ((calls i).call.Registers → (calls j).call.Registers → i = j) := by
  obtain ⟨history, hw⟩ := exists_history h
  obtain ⟨reply, hok, hmem⟩ := asked_of_completed hw hi hci
  obtain ⟨reply', hok', hmem'⟩ := asked_of_completed hw hj hcj
  have hacc := Firebase.After.holds hw.serves (hmem.imp And.left And.left) hok
  have hacc' := Firebase.After.holds hw.serves (hmem'.imp And.left And.left) hok'
  refine ⟨Option.some.inj (hacc.symm.trans hacc'), hacc, fun hri hrj => ?_⟩
  obtain ⟨hmem, -⟩ := hmem.resolve_right fun h => h.2 hri
  obtain ⟨hmem', -⟩ := hmem'.resolve_right fun h => h.2 hrj
  exact Firebase.After.once hw.serves hmem hok hmem' hok'

/-- Ruth registers on one client and logs in on another. -/
def ruthTwice : Bool → ClientCall Bool
  | false => ⟨false, .registerNewUser "ruth".toList "ruth@c.co".toList "passw0rd".toList⟩
  | true => ⟨true, .loginUser none (some "ruth@c.co".toList) "passw0rd".toList⟩

/-- Both go well. -/
theorem exists_ruthTwice : ∃ fb w, Reachable (clientSystem ruthTwice) (World.initial fb) w ∧
    Completed w false true ∧ Completed w true true := by
  have hstart : Reachable (clientSystem ruthTwice)
      (World.initial ⟨fun _ => none, fun _ => none, fun _ => none⟩) _ := .refl
  have hinsert : ∀ s, Exec ((clientSystem ruthTwice).serve (ruthTwice false))
      (clientSystem ruthTwice).perform
      (AuthManager.didCreateUser "ruth".toList "ruth@c.co".toList report .success) s s []
      [⟨.setValue (pathWithString (safeDataBaseKey "ruth@c.co".toList)) ⟨"ruth".toList⟩,
        DatabaseManager.didSetValue report⟩] := by
    intro s
    rw [AuthManager.didCreateUser_of_ok rfl, DatabaseManager.insertNewUser_of_canInsert (by decide)]
    exact .request .done
  have hasked := hstart.launch false rfl rfl (.request .done) trivial
  have hcreated := hasked.answer false rfl .success (.created rfl rfl)
    (hinsert _) trivial
  have hwritten := hcreated.answer false rfl .success (.written rfl)
    (.emit .done) trivial
  have hagain := hwritten.launch true rfl rfl (.request .done) trivial
  have hdone := hagain.answer true rfl .success (.signedIn rfl rfl)
    (.emit .done) trivial
  exact ⟨_, _, hdone, ⟨_, rfl, rfl⟩, ⟨_, rfl, rfl⟩⟩

/-- Her password is in the store. -/
theorem ruth_agrees : ∃ fb w, Reachable (clientSystem ruthTwice) (World.initial fb) w ∧
    w.store.accounts "ruth@c.co".toList = some "passw0rd".toList := by
  obtain ⟨fb, w, hw, hregistered, hloggedIn⟩ := exists_ruthTwice
  exact ⟨fb, w, hw, (accountsAgree hw hregistered hloggedIn rfl rfl).2.1⟩

/-- Where everything in the stores comes from. -/
structure Accounted (calls : ι → ClientCall κ) (fb : Firebase κ)
    (w : World ι Request Reply Bool (ClientCall κ) (Firebase κ)) : Prop where
  kept : ∀ email password, fb.accounts email = some password →
    w.store.accounts email = some password
  accounts : ∀ email password, w.store.accounts email = some password →
    fb.accounts email = some password ∨ ∃ i, Made w i ∧ (calls i).call.Registers ∧
      (calls i).call.credentials = some (email, password)
  records : ∀ path value, w.store.records path = some value → fb.records path = some value ∨
    ∃ i, Completed w i true ∧ (calls i).call.writes = some (path, value)
  recorded : ∀ i path value, Completed w i true → (calls i).call.writes = some (path, value) →
    (w.store.records path).isSome ∨ ∃ j path' value', Completed w j true ∧
      (calls j).call.writes = some (path', value') ∧ overwritten path' value' path = some none
  currentUser : ∀ c email, w.store.currentUser c = some email → fb.currentUser c = some email ∨
    ∃ i password, Made w i ∧ (calls i).client = c ∧ w.store.accounts email = some password ∧
      (calls i).call.credentials = some (email, password)

/-- **Nothing in the stores is of unknown origin**: accounts come of registrations, records of calls
that reported true, and a client's user of a call of that client with the password of the
account. -/
theorem accounted_of_reachable (h : Reachable (clientSystem calls) (World.initial fb) w) :
    Accounted calls fb w := by
  obtain ⟨history, hw⟩ := exists_history h
  have hmade : ∀ {i : ι} {th}, w.threads i = some th → Made w i := fun hth =>
    Option.isSome_of_eq_some hth
  have hreported : ∀ {i path value reply}, ⟨i, .setValue path value, reply⟩ ∈ history →
      reply.error = false → Completed w i true ∧ (calls i).call.writes = some (path, value) := by
    intro i path value reply hmem hok
    obtain ⟨th, hth, hwrites, hlog⟩ := asks_of_mem hw hmem
    rw [hok] at hlog
    exact ⟨⟨th, hth, hlog⟩, hwrites⟩
  refine ⟨fun _ _ hacc => Firebase.After.kept hw.serves hacc, fun email password hacc => ?_,
    fun path value hrec => ?_, fun i path value hi hwrites => ?_, fun c email huser => ?_⟩
  · refine (Firebase.After.created hw.serves hacc).imp_right ?_
    rintro ⟨i, reply, hmem, -⟩
    obtain ⟨th, hth, hcred, hreg⟩ := asks_of_mem hw hmem
    exact ⟨i, hmade hth, hreg, hcred⟩
  · refine (Firebase.After.written hw.serves hrec).imp_right ?_
    rintro ⟨i, reply, hmem, hok⟩
    exact ⟨i, hreported hmem hok⟩
  · obtain ⟨reply, hok, hmem⟩ := written_of_completed hw hi hwrites
    refine (Firebase.After.stays hw.serves hmem hok).imp_right ?_
    rintro ⟨j, path', value', reply', hmem', hok', hout⟩
    obtain ⟨hj, hwrites'⟩ := hreported hmem' hok'
    exact ⟨j, path', value', hj, hwrites', hout⟩
  · refine (Firebase.After.signedIn hw.serves huser).imp_right ?_
    rintro ⟨i, password, reply, hclient, hok, hmem⟩
    have hacc := Firebase.After.holds hw.serves hmem hok
    rcases hmem with hmem | hmem
    · obtain ⟨th, hth, hcred, -⟩ := asks_of_mem hw hmem
      exact ⟨i, password, hmade hth, hclient, hacc, hcred⟩
    · obtain ⟨th, hth, hcred⟩ := asks_of_mem hw hmem
      exact ⟨i, password, hmade hth, hclient, hacc, hcred⟩

/-- Ruth's account and record are accounted for. -/
theorem ruth_accounted : ∃ fb w, Reachable (clientSystem ruthTwice) (World.initial fb) w ∧
    Completed w false true ∧ Accounted ruthTwice fb w := by
  obtain ⟨fb, w, hw, hregistered, -⟩ := exists_ruthTwice
  exact ⟨fb, w, hw, hregistered, accounted_of_reachable hw⟩

end Runs

end InstaGLAM
