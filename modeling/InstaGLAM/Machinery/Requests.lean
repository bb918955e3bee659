import Mathlib.Data.List.Nodup
import Mathlib.Data.Nat.Notation
import Mathlib.Logic.Function.Basic

/-!
# Machinery/Requests — numbered requests over a connection that breaks

    send ──▸ toServer ──serve──▸ toClient ──receive──▸ callback

A client numbers its requests, keeps a callback for each that is to have one, and finds the callback
of an answer by its number.  When the connection breaks the client forgets its callbacks and the
answers are lost; a new session begins with the next number, but what has been sent before is still
on its way, and it is left open whether and when it is served.

What a client can rely on is the two queues `unserved` and `unread`: the requests and the answers on
their way that have a callback.  The rest of the channel does not show, as long as it is `Numbered`
and each session is served in order (`IsNext`).
-/

namespace Requests

variable {ρ α κ β : Type*}

/-- Both ends of a connection, with requests `ρ`, answers `α` and callbacks `κ`.  The requests of
this session are those from `sessionStart` on; `toServer` are those of all sessions that have not
been served, in the order in which they were sent. -/
structure Channel (ρ α κ : Type*) where
  requestNumber : ℕ
  sessionStart : ℕ
  callbacks : ℕ → Option κ
  toServer : List (ℕ × ρ)
  toClient : List (ℕ × α)

/-- Messages that have a callback, with it. -/
def waiting (callbacks : ℕ → Option κ) (messages : List (ℕ × β)) : List (β × κ) :=
  messages.filterMap fun x => (callbacks x.1).map (Prod.mk x.2)

@[simp] theorem waiting_nil (callbacks : ℕ → Option κ) :
    waiting callbacks ([] : List (ℕ × β)) = [] := rfl

@[simp] theorem waiting_cons (callbacks : ℕ → Option κ) (n : ℕ) (b : β) (l : List (ℕ × β)) :
    waiting callbacks ((n, b) :: l) =
      ((callbacks n).map (Prod.mk b)).toList ++ waiting callbacks l := by
  cases h : callbacks n <;> simp [waiting, h]

@[simp] theorem waiting_append (callbacks : ℕ → Option κ) (l l' : List (ℕ × β)) :
    waiting callbacks (l ++ l') = waiting callbacks l ++ waiting callbacks l' :=
  List.filterMap_append

@[simp] theorem waiting_none (l : List (ℕ × β)) : waiting (fun _ => (none : Option κ)) l = [] := by
  simp [waiting]

/-- A number that no message has may get any callback. -/
theorem waiting_update {callbacks : ℕ → Option κ} {l : List (ℕ × β)} {n : ℕ}
    (h : n ∉ l.map Prod.fst) (k : Option κ) :
    waiting (Function.update callbacks n k) l = waiting callbacks l := by
  refine List.filterMap_congr fun x hx => ?_
  have hne : x.1 ≠ n := fun he => h (he ▸ List.mem_map_of_mem hx)
  rw [Function.update_of_ne hne]

/-- Messages without a callback do not show. -/
theorem waiting_eq_nil {callbacks : ℕ → Option κ} {l : List (ℕ × β)}
    (h : ∀ x ∈ l, callbacks x.1 = none) : waiting callbacks l = [] := by
  refine List.filterMap_eq_nil_iff.2 fun x hx => ?_
  rw [h x hx]
  rfl

namespace Channel

variable (c : Channel ρ α κ)

/-! ## The operations -/

/-- A request goes out, with a callback or without. -/
def send (r : ρ) (onAnswer : Option κ) : Channel ρ α κ where
  requestNumber := c.requestNumber + 1
  sessionStart := c.sessionStart
  callbacks := onAnswer.elim c.callbacks fun k =>
    Function.update c.callbacks c.requestNumber (some k)
  toServer := c.toServer ++ [(c.requestNumber, r)]
  toClient := c.toClient

/-- Several requests go out. -/
def sendAll (requests : List (ρ × Option κ)) : Channel ρ α κ :=
  requests.foldl (fun c r => c.send r.1 r.2) c

/-- The server has served request `n` and answers it, with `rest` still to be served. -/
def serve (n : ℕ) (rest : List (ℕ × ρ)) (a : α) : Channel ρ α κ :=
  { c with toServer := rest, toClient := c.toClient ++ [(n, a)] }

/-- The server has served a request, with `rest` still to be served, and nobody hears of it. -/
def absorb (rest : List (ℕ × ρ)) : Channel ρ α κ := { c with toServer := rest }

/-- The client has read the answer to request `n`, the first of those on their way. -/
def receive (n : ℕ) (rest : List (ℕ × α)) : Channel ρ α κ :=
  { c with callbacks := Function.update c.callbacks n none, toClient := rest }

/-- The connection has broken. -/
def close : Channel ρ α κ := { c with callbacks := fun _ => none, toClient := [] }

/-- A new session begins. -/
def renew : Channel ρ α κ := { c with sessionStart := c.requestNumber, toClient := [] }

/-- With `before` sent earlier and not served, a request is the next of its session to be served. -/
def IsNext (before : List (ℕ × ρ)) : Prop := ∀ x ∈ before, x.1 < c.sessionStart

theorem isNext_nil : c.IsNext [] := fun _ hx => absurd hx List.not_mem_nil

theorem isNext_cons {c : Channel ρ α κ} {x : ℕ × ρ} {before : List (ℕ × ρ)} :
    c.IsNext (x :: before) ↔ x.1 < c.sessionStart ∧ c.IsNext before := List.forall_mem_cons

/-! ## The two queues -/

/-- The requests on their way that have a callback. -/
def unserved : List (ρ × κ) := waiting c.callbacks c.toServer

/-- The answers on their way that have a callback. -/
def unread : List (α × κ) := waiting c.callbacks c.toClient

/-- The callbacks of all that is on its way, in the order in which they will run. -/
def inFlight : List κ := c.unread.map Prod.snd ++ c.unserved.map Prod.snd

/-- Without callbacks nothing will run. -/
theorem inFlight_of_idle {c : Channel ρ α κ} (h : ∀ n, c.callbacks n = none) : c.inFlight = [] := by
  rw [inFlight, unread, unserved, waiting_eq_nil fun x _ => h x.1, waiting_eq_nil fun x _ => h x.1]
  rfl

/-- Each message has a number of its own, and no callback is kept for numbers to come and for those
of earlier sessions. -/
structure Numbered : Prop where
  nodup : (c.toClient.map Prod.fst ++ c.toServer.map Prod.fst).Nodup
  lt : ∀ n ∈ c.toClient.map Prod.fst ++ c.toServer.map Prod.fst, n < c.requestNumber
  fresh : ∀ n, c.requestNumber ≤ n → c.callbacks n = none
  old : ∀ n, n < c.sessionStart → c.callbacks n = none
  start : c.sessionStart ≤ c.requestNumber

variable {c}

theorem Numbered.next_notMem_toServer (h : c.Numbered) :
    c.requestNumber ∉ c.toServer.map Prod.fst := fun hmem =>
  Nat.lt_irrefl _ (h.lt _ (List.mem_append_right _ hmem))

theorem Numbered.next_notMem_toClient (h : c.Numbered) :
    c.requestNumber ∉ c.toClient.map Prod.fst := fun hmem =>
  Nat.lt_irrefl _ (h.lt _ (List.mem_append_left _ hmem))

/-! ### Sending -/

theorem Numbered.send (h : c.Numbered) (r : ρ) (onAnswer : Option κ) :
    (c.send r onAnswer).Numbered where
  nodup := by
    have hnew : c.requestNumber ∉ c.toClient.map Prod.fst ++ c.toServer.map Prod.fst := fun hmem =>
      Nat.lt_irrefl _ (h.lt _ hmem)
    simpa [Channel.send, ← List.append_assoc] using h.nodup.concat hnew
  lt n hn := by
    have hn : n ∈ c.toClient.map Prod.fst ++ c.toServer.map Prod.fst ∨ n = c.requestNumber := by
      simpa [Channel.send, or_assoc] using hn
    rcases hn with hn | rfl
    · exact Nat.lt_succ_of_lt (h.lt n hn)
    · exact Nat.lt_succ_self _
  fresh n hn := by
    have hle : c.requestNumber ≤ n := Nat.le_of_succ_le hn
    cases onAnswer with
    | none => exact h.fresh n hle
    | some k =>
      have hne : n ≠ c.requestNumber := Nat.ne_of_gt hn
      exact (Function.update_of_ne hne ..).trans (h.fresh n hle)
  old n hn := by
    cases onAnswer with
    | none => exact h.old n hn
    | some k =>
      have hne : n ≠ c.requestNumber := Nat.ne_of_lt (Nat.lt_of_lt_of_le hn h.start)
      exact (Function.update_of_ne hne ..).trans (h.old n hn)
  start := Nat.le_succ_of_le h.start

/-- A request with a callback joins the queue, and one without does not. -/
theorem unserved_send (h : c.Numbered) (r : ρ) (onAnswer : Option κ) :
    (c.send r onAnswer).unserved = c.unserved ++ (onAnswer.map (Prod.mk r)).toList := by
  cases onAnswer with
  | none =>
    have hnone : c.callbacks c.requestNumber = none := h.fresh _ (Nat.le_refl _)
    simp [unserved, send, hnone]
  | some k =>
    simp [unserved, send, waiting_update h.next_notMem_toServer]

theorem unread_send (h : c.Numbered) (r : ρ) (onAnswer : Option κ) :
    (c.send r onAnswer).unread = c.unread := by
  cases onAnswer with
  | none => rfl
  | some k => exact waiting_update h.next_notMem_toClient _

theorem inFlight_send (h : c.Numbered) (r : ρ) (onAnswer : Option κ) :
    (c.send r onAnswer).inFlight = c.inFlight ++ onAnswer.toList := by
  rw [inFlight, inFlight, unread_send h, unserved_send h]
  cases onAnswer <;> simp

theorem Numbered.sendAll (h : c.Numbered) (requests : List (ρ × Option κ)) :
    (c.sendAll requests).Numbered := by
  induction requests generalizing c with
  | nil => exact h
  | cons r requests ih => exact ih (h.send r.1 r.2)

theorem toServer_sendAll (requests : List (ρ × Option κ)) :
    ∃ sent, (c.sendAll requests).toServer = c.toServer ++ sent ∧
      sent.map Prod.snd = requests.map Prod.fst := by
  induction requests generalizing c with
  | nil => exact ⟨[], (List.append_nil _).symm, rfl⟩
  | cons r requests ih =>
    obtain ⟨sent, hsent, hmap⟩ := ih (c := c.send r.1 r.2)
    refine ⟨(c.requestNumber, r.1) :: sent, ?_, by rw [List.map_cons, hmap, List.map_cons]⟩
    exact hsent.trans (List.append_assoc ..)

theorem length_toServer_sendAll (requests : List (ρ × Option κ)) :
    (c.sendAll requests).toServer.length = c.toServer.length + requests.length := by
  obtain ⟨sent, hsent, hmap⟩ := toServer_sendAll (c := c) requests
  have hlength := congrArg List.length hmap
  rw [List.length_map, List.length_map] at hlength
  rw [hsent, List.length_append, hlength]

theorem sessionStart_sendAll (requests : List (ρ × Option κ)) :
    (c.sendAll requests).sessionStart = c.sessionStart := by
  induction requests generalizing c with
  | nil => rfl
  | cons r requests ih => exact ih

theorem toClient_sendAll (requests : List (ρ × Option κ)) :
    (c.sendAll requests).toClient = c.toClient := by
  induction requests generalizing c with
  | nil => rfl
  | cons r requests ih => exact ih

theorem unserved_sendAll (h : c.Numbered) (requests : List (ρ × Option κ)) :
    (c.sendAll requests).unserved =
      c.unserved ++ requests.filterMap fun r => r.2.map (Prod.mk r.1) := by
  induction requests generalizing c with
  | nil => exact (List.append_nil _).symm
  | cons r requests ih =>
    refine (ih (h.send r.1 r.2)).trans ?_
    rw [unserved_send h]
    cases hr : r.2 <;> simp [hr]

theorem unread_sendAll (h : c.Numbered) (requests : List (ρ × Option κ)) :
    (c.sendAll requests).unread = c.unread := by
  induction requests generalizing c with
  | nil => rfl
  | cons r requests ih => exact (ih (h.send r.1 r.2)).trans (unread_send h ..)

theorem inFlight_sendAll (h : c.Numbered) (requests : List (ρ × Option κ)) :
    (c.sendAll requests).inFlight = c.inFlight ++ requests.filterMap Prod.snd := by
  induction requests generalizing c with
  | nil => exact (List.append_nil _).symm
  | cons r requests ih =>
    refine (ih (h.send r.1 r.2)).trans ?_
    rw [inFlight_send h]
    cases hr : r.2 <;> simp [hr]

/-! ### Serving and receiving -/

variable {n : ℕ} {r : ρ} {a : α} {before after : List (ℕ × ρ)}

theorem Numbered.serve (h : c.Numbered) (hserver : c.toServer = before ++ (n, r) :: after) (a : α) :
    (c.serve n (before ++ after) a).Numbered := by
  have hperm : ((c.serve n (before ++ after) a).toClient.map Prod.fst ++
      (c.serve n (before ++ after) a).toServer.map Prod.fst).Perm
      (c.toClient.map Prod.fst ++ c.toServer.map Prod.fst) := by
    simp only [Channel.serve, hserver, List.map_append, List.map_cons, List.map_nil,
      List.append_assoc, List.singleton_append]
    exact (List.perm_middle.symm).append_left _
  exact ⟨hperm.nodup_iff.2 h.nodup, fun m hm => h.lt m (hperm.mem_iff.1 hm), h.fresh, h.old,
    h.start⟩

/-- The requests before the next one have no callback. -/
theorem waiting_of_isNext {β : Type*} (h : c.Numbered) {l : List (ℕ × β)}
    (hnext : ∀ x ∈ l, x.1 < c.sessionStart) : waiting c.callbacks l = [] :=
  waiting_eq_nil fun x hx => h.old x.1 (hnext x hx)

/-- Some request of the session is the next to be served, unless there are only earlier ones. -/
theorem exists_next (c : Channel ρ α κ) : c.IsNext c.toServer ∨ ∃ before x after,
    c.toServer = before ++ x :: after ∧ c.IsNext before ∧ c.sessionStart ≤ x.1 := by
  induction c.toServer with
  | nil => exact Or.inl c.isNext_nil
  | cons x l ih =>
    by_cases hx : x.1 < c.sessionStart
    · rcases ih with hold | ⟨before, y, after, rfl, hbefore, hy⟩
      · exact Or.inl (isNext_cons.2 ⟨hx, hold⟩)
      · exact Or.inr ⟨x :: before, y, after, rfl, isNext_cons.2 ⟨hx, hbefore⟩, hy⟩
    · exact Or.inr ⟨[], x, l, rfl, c.isNext_nil, Nat.not_lt.1 hx⟩

/-- **Serving moves the head of a queue to the end of the other**, or shows in neither. -/
theorem queues_serve (h : c.Numbered) (hserver : c.toServer = before ++ (n, r) :: after)
    (hnext : c.IsNext before) (a : α) :
    (∃ k, c.callbacks n = some k ∧
      c.unserved = (r, k) :: (c.serve n (before ++ after) a).unserved ∧
      (c.serve n (before ++ after) a).unread = c.unread ++ [(a, k)]) ∨
    (c.callbacks n = none ∧ c.unserved = (c.serve n (before ++ after) a).unserved ∧
      (c.serve n (before ++ after) a).unread = c.unread) := by
  have hbefore := waiting_of_isNext h hnext
  cases hk : c.callbacks n with
  | none =>
    refine Or.inr ⟨rfl, ?_, ?_⟩
    · simp [unserved, Channel.serve, hserver, hk]
    · simp [unread, Channel.serve, hk]
  | some k =>
    refine Or.inl ⟨k, rfl, ?_, ?_⟩
    · simp [unserved, Channel.serve, hserver, hk, hbefore]
    · simp [unread, Channel.serve, hk]

/-- Serving does not change what will run. -/
theorem inFlight_serve (h : c.Numbered) (hserver : c.toServer = before ++ (n, r) :: after)
    (hnext : c.IsNext before) (a : α) :
    (c.serve n (before ++ after) a).inFlight = c.inFlight := by
  rcases queues_serve h hserver hnext a with ⟨k, -, hserved, hread⟩ | ⟨-, hserved, hread⟩
  · rw [inFlight, inFlight, hserved, hread]
    simp
  · rw [inFlight, inFlight, hserved, hread]

theorem Numbered.absorb (h : c.Numbered) (hserver : c.toServer = before ++ (n, r) :: after) :
    (c.absorb (before ++ after)).Numbered := by
  have hsub : (c.toClient.map Prod.fst ++ (before ++ after).map Prod.fst).Sublist
      (c.toClient.map Prod.fst ++ c.toServer.map Prod.fst) := by
    rw [hserver]
    exact (((List.sublist_cons_self ..).append_left _).map _).append_left _
  exact ⟨h.nodup.sublist hsub, fun m hm => h.lt m (hsub.subset hm), h.fresh, h.old, h.start⟩

/-- What nobody waits for, may be served and not be heard of. -/
theorem unserved_absorb (hserver : c.toServer = before ++ (n, r) :: after)
    (hk : c.callbacks n = none) : (c.absorb (before ++ after)).unserved = c.unserved := by
  simp [unserved, absorb, hserver, hk]

theorem Numbered.receive {rest : List (ℕ × α)} (h : c.Numbered)
    (hclient : c.toClient = (n, a) :: rest) : (c.receive n rest).Numbered := by
  obtain ⟨hnodup, hlt, hfresh, hold, hstart⟩ := h
  rw [hclient] at hnodup hlt
  have hnone : ∀ m, c.callbacks m = none → (c.receive n rest).callbacks m = none := fun m hm => by
    by_cases he : m = n
    · exact he ▸ Function.update_self ..
    · exact (Function.update_of_ne he ..).trans hm
  exact ⟨hnodup.of_cons, fun m hm => hlt m (List.mem_cons_of_mem _ hm),
    fun m hm => hnone m (hfresh m hm), fun m hm => hnone m (hold m hm), hstart⟩

/-- **Receiving takes the head of a queue**, or shows in neither. -/
theorem queues_receive {rest : List (ℕ × α)} (h : c.Numbered)
    (hclient : c.toClient = (n, a) :: rest) :
    (c.receive n rest).unserved = c.unserved ∧
      c.unread = ((c.callbacks n).map (Prod.mk a)).toList ++ (c.receive n rest).unread := by
  have hnodup := h.nodup
  rw [hclient] at hnodup
  have hother : n ∉ rest.map Prod.fst ++ c.toServer.map Prod.fst := (List.nodup_cons.1 hnodup).1
  rw [List.mem_append, not_or] at hother
  refine ⟨waiting_update hother.2 _, ?_⟩
  rw [unread, hclient, waiting_cons]
  exact congrArg _ (waiting_update hother.1 _).symm

theorem inFlight_receive {rest : List (ℕ × α)} (h : c.Numbered)
    (hclient : c.toClient = (n, a) :: rest) :
    c.inFlight = (c.callbacks n).toList ++ (c.receive n rest).inFlight := by
  obtain ⟨hserved, hread⟩ := queues_receive h hclient
  rw [inFlight, inFlight, hserved, hread]
  cases c.callbacks n <;> simp

/-! ### Breaking and renewing -/

theorem Numbered.close (h : c.Numbered) : c.close.Numbered where
  nodup := (List.nodup_append.1 h.nodup).2.1
  lt n hn := h.lt n (List.mem_append_right _ hn)
  fresh _ _ := rfl
  old _ _ := rfl
  start := h.start

@[simp] theorem unserved_close : c.close.unserved = [] := waiting_none _

@[simp] theorem unread_close : c.close.unread = [] := rfl

theorem Numbered.renew (h : c.Numbered) (hnone : ∀ n, c.callbacks n = none) : c.renew.Numbered where
  nodup := (List.nodup_append.1 h.nodup).2.1
  lt n hn := h.lt n (List.mem_append_right _ hn)
  fresh := h.fresh
  old n _ := hnone n
  start := Nat.le_refl _

@[simp] theorem unread_renew : c.renew.unread = [] := rfl

/-! ### Answers that are waited for -/

/-- Each answer on its way to a callback is as `P` says. -/
def Answers (c : Channel ρ α κ) (P : ℕ → α → κ → Prop) : Prop :=
  ∀ n a k, (n, a) ∈ c.toClient → c.callbacks n = some k → P n a k

section Answers

variable {P Q : ℕ → α → κ → Prop}

theorem Answers.mono (h : c.Answers P) (hsub : ∀ n a k, P n a k → Q n a k) : c.Answers Q :=
  fun n a k hmem hk => hsub n a k (h n a k hmem hk)

/-- The answers to requests to come are not on their way. -/
theorem Answers.send (h : c.Answers P) (hnumbered : c.Numbered) (r : ρ) (onAnswer : Option κ) :
    (c.send r onAnswer).Answers P := by
  intro m b k hmem hk
  have hne : m ≠ c.requestNumber := fun he =>
    hnumbered.next_notMem_toClient (List.mem_map.2 ⟨(m, b), hmem, he⟩)
  cases onAnswer with
  | none => exact h m b k hmem hk
  | some k' => exact h m b k hmem ((Function.update_of_ne hne ..).symm.trans hk)

theorem Answers.sendAll (h : c.Answers P) (hnumbered : c.Numbered)
    (requests : List (ρ × Option κ)) : (c.sendAll requests).Answers P := by
  induction requests generalizing c with
  | nil => exact h
  | cons r requests ih => exact ih (h.send hnumbered r.1 r.2) (hnumbered.send r.1 r.2)

theorem Answers.serve (h : c.Answers P) {rest : List (ℕ × ρ)}
    (hnew : ∀ k, c.callbacks n = some k → P n a k) : (c.serve n rest a).Answers P := by
  intro m b k hmem hk
  rcases List.mem_append.1 hmem with hmem | hmem
  · exact h m b k hmem hk
  · obtain ⟨rfl, rfl⟩ := Prod.mk.inj (List.mem_singleton.1 hmem)
    exact hnew k hk

theorem Answers.receive {rest : List (ℕ × α)} (h : c.Answers P)
    (hclient : c.toClient = (n, a) :: rest) : (c.receive n rest).Answers P := by
  intro m b k hmem (hk : Function.update c.callbacks n none m = some k)
  have hne : m ≠ n := fun he => by
    rw [he, Function.update_self] at hk
    exact absurd hk.symm (Option.some_ne_none k)
  rw [Function.update_of_ne hne] at hk
  exact h m b k (hclient ▸ List.mem_cons_of_mem _ hmem) hk

end Answers

/-! ### Requests that are waited for -/

/-- Each request of a kind on its way in this session has a callback. -/
def Tracked (c : Channel ρ α κ) (P : ρ → Prop) : Prop :=
  ∀ n r, (n, r) ∈ c.toServer → c.sessionStart ≤ n → P r → (c.callbacks n).isSome

variable {P : ρ → Prop}

theorem Tracked.send (h : c.Tracked P) {onAnswer : Option κ} (hr : P r → onAnswer.isSome) :
    (c.send r onAnswer).Tracked P := by
  intro m r' hmem hsession hr'
  rcases List.mem_append.1 hmem with hmem | hmem
  · have hold := h m r' hmem hsession hr'
    cases onAnswer with
    | none => exact hold
    | some k =>
      show (Function.update c.callbacks c.requestNumber (some k) m).isSome
      by_cases he : m = c.requestNumber
      · rw [he, Function.update_self]
        rfl
      · rwa [Function.update_of_ne he]
  · obtain ⟨rfl, rfl⟩ := Prod.mk.inj (List.mem_singleton.1 hmem)
    obtain ⟨k, rfl⟩ := Option.isSome_iff_exists.1 (hr hr')
    exact Option.isSome_of_eq_some (Function.update_self ..)

theorem Tracked.sendAll {requests : List (ρ × Option κ)} (h : c.Tracked P)
    (hall : ∀ x ∈ requests, P x.1 → x.2.isSome) : (c.sendAll requests).Tracked P := by
  induction requests generalizing c with
  | nil => exact h
  | cons x requests ih =>
    exact ih (h.send (hall x List.mem_cons_self)) fun y hy => hall y (List.mem_cons_of_mem _ hy)

theorem Tracked.absorb (h : c.Tracked P) (hserver : c.toServer = before ++ (n, r) :: after) :
    (c.absorb (before ++ after)).Tracked P := by
  intro m r' hmem
  have hsub : (before ++ after).Sublist c.toServer :=
    hserver ▸ (List.sublist_cons_self ..).append_left _
  exact h m r' (hsub.subset hmem)

theorem Tracked.serve (h : c.Tracked P) (hserver : c.toServer = before ++ (n, r) :: after) (a : α) :
    (c.serve n (before ++ after) a).Tracked P := h.absorb hserver

theorem Tracked.receive {rest : List (ℕ × α)} (h : c.Tracked P) (hnumbered : c.Numbered)
    (hclient : c.toClient = (n, a) :: rest) : (c.receive n rest).Tracked P := by
  intro m r' hmem hsession hr'
  have hnodup := hnumbered.nodup
  rw [hclient] at hnodup
  have hne : m ≠ n := fun he => (List.nodup_cons.1 hnodup).1 <|
    List.mem_append_right _ (List.mem_map.2 ⟨(m, r'), hmem, he⟩)
  show (Function.update c.callbacks n none m).isSome
  rw [Function.update_of_ne hne]
  exact h m r' hmem hsession hr'

/-- A session begins with nothing sent. -/
theorem Tracked.renew (h : c.Numbered) : c.renew.Tracked P := fun m r' hmem hsession =>
  absurd (h.lt m (List.mem_append_right _ (List.mem_map.2 ⟨(m, r'), hmem, rfl⟩)))
    (Nat.not_lt.2 hsession)

/-- A request with a callback shows in the queue. -/
theorem mem_unserved {k : κ} (hmem : (n, r) ∈ c.toServer) (hk : c.callbacks n = some k) :
    (r, k) ∈ c.unserved := by
  refine List.mem_filterMap.2 ⟨(n, r), hmem, ?_⟩
  rw [hk]
  rfl

end Channel

end Requests
