import InstaGLAM.FirebaseDatabase.Answers

/-!
# FirebaseDatabase/Puts — each put is answered once, in order, and takes effect as if sent once

With a server that takes the requests of a session in order, every step of a run is a move of the
window of puts, so the rules of such windows carry over: the completion blocks are called for 1, 2,
3, … with what the server has answered to that very put.  With a server that, besides, has done with
a session when the next has begun, a record is in the end what the accepted puts make of it in
order, although puts are served twice, late and out of order when connections break.
-/

namespace InstaGLAM.FirebaseDatabase

open Requests Redelivery Trace PersistentConnection

variable {κ ν : Type*} {c : PersistentConnection κ ν} {trace : List (Event κ ν)}
  {W : Window (κ × ν)} {A : ℕ → ℕ → Bool → Prop} {B : ℕ → Bool → Prop}

/-- What a put does to the record at `key`, with a server that decides by the put alone. -/
def applyPut [DataTree κ ν] (accepts : κ → ν → Bool) (key : κ) (record : Option ν) (put : κ × ν) :
    Option ν :=
  if accepts put.1 put.2 then (DataTree.overwritten put.1 put.2 key).getD record else record

/-- The server decides by the put alone, and nobody else writes where it would reach `key`. -/
structure Alone (accepts : κ → ν → Bool) (key : κ) (trace : List (Event κ ν)) : Prop where
  decided : ∀ rn path data statusOk, .served rn (.put path data) statusOk ∈ trace →
    statusOk = accepts path data
  others : ∀ changes, .otherWrote changes ∈ trace → changes key = none

theorem Alone.earlier {accepts : κ → ν → Bool} {key : κ} {e : Event κ ν}
    (h : Alone accepts key (e :: trace)) : Alone accepts key trace where
  decided rn path data statusOk hmem :=
    h.decided rn path data statusOk (List.mem_cons_of_mem _ hmem)
  others changes hmem := h.others changes (List.mem_cons_of_mem _ hmem)

section Run

variable [DataTree κ ν] {accepts : κ → ν → Bool} {key : κ} {records : κ → Option ν}
  {w w' : World κ ν} {e : Event κ ν} {rn index : ℕ} {statusOk : Bool}

/-- In a run to `w`, put `index` was sent as request `rn`, and the server has served this request
while the client waited for its answer. -/
def ServedPut (records : κ → Option ν) (trace : List (Event κ ν)) (w : World κ ν) (rn index : ℕ)
    (statusOk : Bool) : Prop :=
  ∃ earlier w₁ put,
    Happened Step ⟨initial, records⟩ trace w earlier w₁ (.served rn (.put put.1 put.2) statusOk) ∧
      w₁.connection.session.callbacks rn = some (.put index) ∧
      (made earlier)[index - 1]? = some put

/-- In a run to `w`, the client has read the answer to a request that was put `index`. -/
def Answered (records : κ → Option ν) (trace : List (Event κ ν)) (w : World κ ν) (index : ℕ)
    (statusOk : Bool) : Prop :=
  ∃ earlier w₁ rn, Happened Step ⟨initial, records⟩ trace w earlier w₁ (.answered rn statusOk) ∧
    ServedPut records earlier w₁ rn index statusOk

theorem ServedPut.later (h : ServedPut records trace w rn index statusOk) (hs : Step w e w') :
    ServedPut records (e :: trace) w' rn index statusOk := by
  obtain ⟨earlier, w₁, put, hserved, hput⟩ := h
  exact ⟨earlier, w₁, put, hserved.later hs, hput⟩

theorem Answered.later (h : Answered records trace w index statusOk) (hs : Step w e w') :
    Answered records (e :: trace) w' index statusOk := by
  obtain ⟨earlier, w₁, rn, hread, hserved⟩ := h
  exact ⟨earlier, w₁, rn, hread.later hs, hserved⟩

/-- What an answered put was, and that the server has served it so. -/
theorem Answered.exists_served (h : Answered records trace w index statusOk) :
    ∃ rn put, (made trace)[index - 1]? = some put ∧
      .served rn (.put put.1 put.2) statusOk ∈ trace := by
  obtain ⟨-, -, rn, ⟨-, later, -, -, -, rfl⟩, earlier, -, put, ⟨-, later', -, -, -, rfl⟩, -,
    hput⟩ := h
  refine ⟨rn, put, ?_, by simp⟩
  have happend := made_append (later ++ .answered rn statusOk ::
    (later' ++ [.served rn (.put put.1 put.2) statusOk])) earlier
  simp only [List.append_assoc, List.cons_append, List.nil_append] at happend
  rw [happend]
  exact (List.getElem?_append_left (List.getElem?_eq_some_iff.1 hput).1).trans hput

/-- A run under which the connection is at `W`. -/
structure AtWindow (records : κ → Option ν) (trace : List (Event κ ν)) (W : Window (κ × ν))
    (w : World κ ν) : Prop where
  run : Run Step ⟨initial, records⟩ trace w
  sound : Sound w.connection
  delivers : Delivers (ServedPut records trace w) (Answered records trace w) trace W w.connection

/-- Beside a window, the record at each key that is left alone is settled. -/
def Settled (records : κ → Option ν) (trace : List (Event κ ν)) (W : Window (κ × ν))
    (w : World κ ν) : Prop :=
  ∀ accepts key, Alone accepts key trace →
    Settles (applyPut accepts key) (records key) W (w.records key)

theorem overwrites_or_idle (put : κ × ν) :
    Overwrites (applyPut accepts key) put ∨ Idle (applyPut accepts key) put := by
  by_cases haccepts : accepts put.1 put.2 = true
  · have happly : ∀ record, applyPut accepts key record put =
        (DataTree.overwritten put.1 put.2 key).getD record := fun _ => if_pos haccepts
    cases hreach : DataTree.overwritten put.1 put.2 key with
    | none => exact Or.inr fun record => by rw [happly, hreach, Option.getD_none]
    | some left =>
      exact Or.inl fun record record' => by simp only [happly, hreach, Option.getD_some]
  · exact Or.inr fun _ => if_neg haccepts

theorem AtWindow.later (h : AtWindow records trace W w) (hs : Step w e w') :
    Delivers (ServedPut records (e :: trace) w') (Answered records (e :: trace) w') trace W
      w.connection :=
  h.delivers.mono (fun _ _ _ hserved => hserved.later hs) fun _ _ hread => hread.later hs

/-- What does not concern the records moves the window. -/
theorem atWindow_of_quiet (hw : AtWindow records trace W w) (hs : Step w e w')
    (hsound : Sound w'.connection) (he : made (e :: trace) = made trace)
    (hrecords : w'.records = w.records)
    (hquiet : ∃ W', W.Quiet W' ∧ Delivers (ServedPut records (e :: trace) w')
      (Answered records (e :: trace) w') trace W' w'.connection) :
    ∃ W', AtWindow records (e :: trace) W' w' ∧
      (Settled records trace W w → Settled records (e :: trace) W' w') := by
  obtain ⟨W', hmove, hdelivers⟩ := hquiet
  refine ⟨W', ⟨hw.run.cons hs, hsound, hdelivers.later he⟩, fun hsettled accepts key halone => ?_⟩
  rw [hrecords]
  exact settles_quiet hmove (hsettled accepts key halone.earlier) overwrites_or_idle

/-- What serving does to a record. -/
theorem records_served (w : World κ ν) (rn : ℕ) {action : Action κ ν}
    (rest : List (ℕ × Action κ ν)) {statusOk : Bool}
    (halone : Alone accepts key (.served rn action statusOk :: trace)) :
    (∃ path data, action = .put path data ∧
      (w.served rn rest action statusOk).records key =
        applyPut accepts key (w.records key) (path, data)) ∨
    (∀ path data, action ≠ .put path data) ∧
      (w.served rn rest action statusOk).records key = w.records key := by
  cases action with
  | put path data =>
    obtain rfl := halone.decided rn path data statusOk List.mem_cons_self
    refine Or.inl ⟨path, data, rfl, ?_⟩
    cases haccepts : accepts path data <;> simp [World.served, Action.write, applyPut, haccepts]
  | auth credential | unauth | stats =>
    exact Or.inr ⟨by simp, by cases statusOk <;> rfl⟩

theorem atWindow_served {action : Action κ ν} {before after : List (ℕ × Action κ ν)}
    (hw : AtWindow records trace W w)
    (hserver : w.connection.session.toServer = before ++ (rn, action) :: after)
    (hnext : w.connection.session.IsNext before) :
    ∃ W', AtWindow records (.served rn action statusOk :: trace) W'
        (w.served rn (before ++ after) action statusOk) ∧
      (w.connection.session.sessionStart ≤ rn → Settled records trace W w →
        Settled records (.served rn action statusOk :: trace) W'
          (w.served rn (before ++ after) action statusOk)) := by
  have hs : Step w (.served rn action statusOk) (w.served rn (before ++ after) action statusOk) :=
    .served hserver
  have hsound := sound_served hw.sound hserver hnext statusOk
  have hnew : ∀ index put, w.connection.session.callbacks rn = some (.put index) →
      action = .put put.1 put.2 → (made trace)[index - 1]? = some put →
      ServedPut records (.served rn action statusOk :: trace)
        (w.served rn (before ++ after) action statusOk) rn index statusOk := by
    rintro index put hk rfl hput
    exact ⟨trace, w, put, .now hw.run hs, hk, hput⟩
  rcases (hw.later hs).serving hw.sound hserver hnext hnew with
    ⟨put, later, rfl, hfirst, hdelivers⟩ | ⟨hlate, hdelivers⟩
  · refine ⟨W.serve put later, ⟨hw.run.cons hs, hsound, hdelivers.later rfl⟩,
      fun _ hsettled accepts key halone => ?_⟩
    rcases records_served w rn (before ++ after) halone with ⟨path, data, he, hrecord⟩ | ⟨hno, -⟩
    · obtain ⟨rfl, rfl⟩ := Action.put.inj he
      rw [hrecord]
      exact settles_serve (hsettled accepts key halone.earlier) (overwrites_or_idle _) hfirst
    · exact absurd rfl (hno _ _)
  · refine ⟨W, ⟨hw.run.cons hs, hsound, hdelivers.later rfl⟩,
      fun hsession hsettled accepts key halone => ?_⟩
    have hold := hsettled accepts key halone.earlier
    rcases records_served w rn (before ++ after) halone with
      ⟨path, data, he, hrecord⟩ | ⟨-, hrecord⟩
    · rw [hrecord]
      exact settles_late hold (overwrites_or_idle _) (hlate hsession path data he)
    · rwa [hrecord]

/-- **What one step keeps**, with a server that serves in order, and with one that, besides, is done
with earlier sessions. -/
theorem atWindow_step (hw : AtWindow records trace W w) (horder : InOrder w e) (hs : Step w e w') :
    ∃ W', AtWindow records (e :: trace) W' w' ∧
      (Ended w e → Settled records trace W w → Settled records (e :: trace) W' w') := by
  have hsound := sound_step hw.sound horder hs
  have hlater := hw.later hs
  have hquiet := atWindow_of_quiet hw hs hsound
  have hdone : made (e :: trace) = made trace → w'.records = w.records →
      (∃ W', W.Quiet W' ∧ Delivers (ServedPut records (e :: trace) w')
        (Answered records (e :: trace) w') trace W' w'.connection) →
      ∃ W', AtWindow records (e :: trace) W' w' ∧
        (Ended w e → Settled records trace W w → Settled records (e :: trace) W' w') :=
    fun he hrecords hmove => (hquiet he hrecords hmove).imp fun _ h => ⟨h.1, fun _ => h.2⟩
  cases hs with
  | @setValue c records' path data =>
    refine ⟨W.make (path, data), ⟨hw.run.cons .setValue, hsound, hlater.putInternal hw.sound ..⟩,
      fun _ hsettled accepts key halone => ?_⟩
    exact settles_make (hsettled accepts key halone.earlier) _
  | interrupt => exact hdone rfl rfl (hlater.interrupt _)
  | resume => exact hdone rfl rfl ⟨W, .same, hlater.resume _⟩
  | enteringForeground => exact hdone rfl rfl ⟨W, .same, hlater.enteringForeground⟩
  | refreshAuthToken => exact hdone rfl rfl ⟨W, .same, hlater.refreshAuthToken hw.sound _⟩
  | retry hretry => exact hdone rfl rfl ⟨W, .same, hlater.fetchToken _⟩
  | fetchedToken hfetch => exact hdone rfl rfl ⟨W, .same, hlater.fetchedToken _ _⟩
  | ready hr => exact hdone rfl rfl ⟨W, .same, hlater.onReady hw.sound hr⟩
  | closed => exact hdone rfl rfl hlater.close
  | authRevoked => exact hdone rfl rfl hlater.onAuthRevoked
  | @answered c records' rn statusOk rest hclient =>
    have hs : Step ⟨c, records'⟩ (.answered rn statusOk)
        ⟨c.onDataMessage rn statusOk rest, records'⟩ := .answered hclient
    have hread := hw.delivers.mono (fun _ _ _ => id) fun _ _ hread => hread.later hs
    refine hdone rfl rfl ?_
    obtain ⟨W', hmove, hdelivers⟩ := hread.onDataMessage hw.sound hclient fun index hserved =>
      ⟨trace, _, rn, .now hw.run hs, hserved⟩
    exact ⟨W', hmove, hdelivers.mono (fun _ _ _ hserved => hserved.later hs) fun _ _ => id⟩
  | served hserver =>
    obtain ⟨W', hw', hsettled⟩ := atWindow_served hw hserver (horder _ _ _ _ _ rfl hserver)
    exact ⟨W', hw', fun hended => hsettled (hended _ _ _ rfl)⟩
  | @otherWrote c records' changes =>
    refine ⟨W, ⟨hw.run.cons .otherWrote, hsound, hlater.later rfl⟩,
      fun _ hsettled accepts key halone => ?_⟩
    have hrecord : (changes key).getD (records' key) = records' key := by
      rw [halone.others changes List.mem_cons_self, Option.getD_none]
    show Settles _ _ W ((changes key).getD (records' key))
    rw [hrecord]
    exact hsettled accepts key halone.earlier

theorem atWindow_initial : AtWindow records [] ⟨[], [], []⟩ ⟨initial, records⟩ :=
  ⟨.nil, sound_initial, delivers_initial⟩

theorem atWindow_of_run (h : Run (StepWith InOrder) ⟨initial, records⟩ trace w) :
    ∃ W, AtWindow records trace W w := by
  refine h.invariant (I := fun trace w => ∃ W, AtWindow records trace W w) ⟨_, atWindow_initial⟩ ?_
  rintro trace w e w' ⟨W, hw⟩ ⟨horder, hs⟩
  obtain ⟨W', hw', -⟩ := atWindow_step hw horder hs
  exact ⟨W', hw'⟩

theorem settled_of_run (h : Run (StepWith Relied) ⟨initial, records⟩ trace w) :
    ∃ W, AtWindow records trace W w ∧ Settled records trace W w := by
  refine h.invariant
    (I := fun trace w => ∃ W, AtWindow records trace W w ∧ Settled records trace W w)
    ⟨_, atWindow_initial, fun _ _ _ => Or.inr rfl⟩ ?_
  rintro trace w e w' ⟨W, hw, hsettled⟩ ⟨⟨horder, hended⟩, hs⟩
  obtain ⟨W', hw', hkept⟩ := atWindow_step hw horder hs
  exact ⟨W', hw', hkept hended hsettled⟩

end Run

namespace Delivers

/-- The completion blocks that have been called are those of the first puts, the other puts are
outstanding. -/
theorem inOrder (h : Delivers A B trace W c) :
    (c.completions.map Prod.fst).reverse = List.range' 1 c.completions.length ∧
      c.outstanding = List.range' (1 + c.completions.length) c.outstanding.length ∧
      c.completions.length + c.outstanding.length = (made trace).length := by
  have hlength : c.completions.length + c.outstanding.length = (made trace).length := by
    have hall := congrArg List.length h.order
    simpa using hall
  have hsplit := h.order
  rw [← hlength, ← List.range'_append_1] at hsplit
  obtain ⟨hanswered, hrest⟩ := List.append_inj hsplit (by simp)
  exact ⟨hanswered, hrest, hlength⟩

/-- What is outstanding is what was made and not answered. -/
theorem outstandingPuts_eq (h : Delivers A B trace W c) (index : ℕ) : c.outstandingPuts index =
    if c.completions.length < index then (made trace)[index - 1]? else none := by
  obtain ⟨-, hrest, hlength⟩ := h.inOrder
  cases hput : c.outstandingPuts index with
  | some put =>
    have hmem := h.mem_outstanding hput
    rw [hrest, List.mem_range'_1] at hmem
    rw [if_pos (by omega), h.puts index put hput]
  | none =>
    have hout : index ∉ c.outstanding := fun hmem => by
      obtain ⟨put, hsome⟩ := isSome_of_mem_outstanding hmem
      exact absurd (hsome.symm.trans hput) (Option.some_ne_none put)
    rw [hrest, List.mem_range'_1] at hout
    split
    · exact (List.getElem?_eq_none (by omega)).symm
    · rfl

end Delivers

section Run

variable [DataTree κ ν] {accepts : κ → ν → Bool} {key : κ} {records : κ → Option ν}
  {w : World κ ν}

/-- With a server that decides by the put alone, the completion blocks are called with what it
decides about the puts, in order. -/
theorem AtWindow.statuses (h : AtWindow records trace W w)
    (hdecided : ∀ rn path data statusOk, .served rn (.put path data) statusOk ∈ trace →
      statusOk = accepts path data) :
    (w.connection.completions.map Prod.snd).reverse =
      ((made trace).take w.connection.completions.length).map fun put => accepts put.1 put.2 := by
  obtain ⟨hfirst, -, hlength⟩ := h.delivers.inOrder
  rw [← List.map_reverse] at hfirst ⊢
  refine List.ext_getElem ?_ fun i hi hi' => ?_
  · simp only [List.length_map, List.length_reverse, List.length_take]
    omega
  · have hi : i < w.connection.completions.reverse.length := by simpa using hi
    have hindex : (w.connection.completions.reverse[i]).1 = 1 + i := by
      have hith := List.getElem_of_eq hfirst (i := i) (by simpa using hi)
      simpa using hith
    have hanswered := h.delivers.completions _ (List.mem_reverse.1 (List.getElem_mem hi))
    obtain ⟨rn, put, hput, hserved⟩ := hanswered.exists_served
    rw [hindex, Nat.add_sub_cancel_left] at hput
    obtain ⟨hlt, hith⟩ := List.getElem?_eq_some_iff.1 hput
    rw [List.getElem_map, List.getElem_map, List.getElem_take, hith]
    exact hdecided _ _ _ _ hserved

/-- **Each put is answered once, and in order**, by a server that takes the requests of a session in
order: the completion blocks that have been called are those of the first puts, each with what the
server answered to the request that was that very put, and the other puts are outstanding with the
data they were made with. -/
theorem answered_in_order (h : Run (StepWith InOrder) ⟨initial, records⟩ trace w) :
    (w.connection.completions.map Prod.fst).reverse =
      List.range' 1 w.connection.completions.length ∧
    (∀ index, w.connection.outstandingPuts index =
      if w.connection.completions.length < index then (made trace)[index - 1]? else none) ∧
    ∀ x ∈ w.connection.completions, Answered records trace w x.1 x.2 := by
  obtain ⟨W, hw⟩ := atWindow_of_run h
  exact ⟨hw.delivers.inOrder.1, hw.delivers.outstandingPuts_eq, hw.delivers.completions⟩

/-- A put, the same each time. -/
def putRuth : Path × UserRecord := (["ruth-c-co".toList], ⟨"ruth".toList⟩)

/-- Two equal puts, sent again when the connection is lost: the first is accepted again, the second
is refused.  What had been sent of the second before is never served. -/
def equalPuts : List (Event Path UserRecord) :=
  [.answered 5 false, .answered 4 true, .served 5 (.put putRuth.1 putRuth.2) false,
    .served 4 (.put putRuth.1 putRuth.2) true, .ready, .fetchedToken 2 (some none), .retry] ++
  lost putRuth putRuth

theorem run_equalPuts : ∃ w, Run (StepWith Relied) ⟨initial, fun _ => none⟩ equalPuts w ∧
    w.connection.completions = [(2, false), (1, true)] := by
  refine ⟨_, run_other (run_other (run_served (run_served (run_other (run_other (run_other
    (run_lost putRuth putRuth _) (.retry rfl) nofun) (step_fetchedToken rfl) nofun) (.ready rfl)
    nofun) [(3, .put putRuth.1 putRuth.2)] [(5, .put putRuth.1 putRuth.2)] rfl ?_ (by decide))
    [(3, .put putRuth.1 putRuth.2)] [] rfl ?_ (by decide)) (.answered rfl) nofun) (.answered rfl)
    nofun, rfl⟩
  all_goals exact Channel.isNext_cons.2 ⟨by decide, Channel.isNext_nil _⟩

theorem answered_in_order_equalPuts :
    ∃ w, Run (StepWith InOrder) ⟨initial, fun _ => none⟩ equalPuts w ∧
      w.connection.completions = [(2, false), (1, true)] ∧
      Answered (fun _ => none) equalPuts w 2 false ∧
      Answered (fun _ => none) equalPuts w 1 true := by
  obtain ⟨w, hrelied, hcompletions⟩ := run_equalPuts
  have hrun := hrelied.mono fun _ _ _ hs => And.intro hs.1.1 hs.2
  obtain ⟨-, -, hanswered⟩ := answered_in_order hrun
  rw [hcompletions] at hanswered
  exact ⟨w, hrun, hcompletions, hanswered (2, false) List.mem_cons_self,
    hanswered (1, true) (List.mem_cons_of_mem _ List.mem_cons_self)⟩

/-- What a window says of the record at a key that is left alone, when its puts are answered. -/
theorem AtWindow.record_eq (h : AtWindow records trace W w) (hsettled : Settled records trace W w)
    (halone : Alone accepts key trace)
    (hdone : ∀ index put, w.connection.outstandingPuts index = some put →
      DataTree.overwritten put.1 put.2 key = none) :
    w.records key = (made trace).foldl (applyPut accepts key) (records key) := by
  have hidle : ∀ put ∈ W.unserved, Idle (applyPut accepts key) put := fun put hput record => by
    have hmem : put ∈ W.served ++ W.unserved := List.mem_append_right _ hput
    rw [h.delivers.outstanding] at hmem
    obtain ⟨index, -, hindex⟩ := List.mem_filterMap.1 hmem
    rw [applyPut, hdone index put hindex, Option.getD_none, ite_self]
  rw [eq_of_settles (hsettled accepts key halone) hidle, h.delivers.all]

/-- **Nothing is lost, and nothing shows twice**, with a server that may be relied on: once no put
that reaches `key` is outstanding, the record is what the accepted puts make of it, each taken once
and in order.  Before that, puts may have been served twice, and those of a lost session late. -/
theorem records_of_answered (h : Run (StepWith Relied) ⟨initial, records⟩ trace w)
    (halone : Alone accepts key trace)
    (hdone : ∀ index put, w.connection.outstandingPuts index = some put →
      DataTree.overwritten put.1 put.2 key = none) :
    w.records key = (made trace).foldl (applyPut accepts key) (records key) := by
  obtain ⟨W, hw, hsettled⟩ := settled_of_run h
  exact hw.record_eq hsettled halone hdone

/-- A record below another one. -/
def putNested : Path × UserRecord := (["ruth".toList, "c".toList], ⟨"ruth".toList⟩)

/-- A record that replaces it. -/
def putAbove : Path × UserRecord := (["ruth".toList], ⟨"emar".toList⟩)

/-- The second is served late, too, before both are sent again. -/
def nestedPuts : List (Event Path UserRecord) :=
  [.answered 5 true, .answered 4 true, .served 5 (.put putAbove.1 putAbove.2) true,
    .served 4 (.put putNested.1 putNested.2) true, .ready, .fetchedToken 2 (some none), .retry,
    .served 3 (.put putAbove.1 putAbove.2) true] ++ lost putNested putAbove

theorem run_nestedPuts : ∃ w, Run (StepWith Relied) ⟨initial, fun _ => none⟩ nestedPuts w ∧
    w.connection.completions = [(2, true), (1, true)] ∧
    ∀ index, w.connection.outstandingPuts index = none := by
  refine ⟨_, run_other (run_other (run_served (run_served (run_other (run_other (run_other
    (run_served (run_lost putNested putAbove _) [] [] rfl (Channel.isNext_nil _) (by decide))
    (.retry rfl) nofun) (step_fetchedToken rfl) nofun) (.ready rfl) nofun)
    [] [(5, .put putAbove.1 putAbove.2)] rfl (Channel.isNext_nil _) (by decide))
    [] [] rfl (Channel.isNext_nil _) (by decide)) (.answered rfl) nofun) (.answered rfl) nofun, rfl,
    fun index => ?_⟩
  rcases index with _ | _ | _ | index <;> rfl

theorem records_of_answered_nestedPuts :
    ∃ w, Run (StepWith Relied) ⟨initial, fun _ => none⟩ nestedPuts w ∧
      w.records ["ruth".toList, "c".toList] = none ∧
      w.records ["ruth".toList] = some ⟨"emar".toList⟩ := by
  obtain ⟨w, hrun, -, hdone⟩ := run_nestedPuts
  have halone : ∀ key, Alone (fun _ _ => true) key nestedPuts := fun key =>
    ⟨by simp [nestedPuts, lost], by simp [nestedPuts, lost]⟩
  have hrecords : ∀ key, w.records key =
      (made nestedPuts).foldl (applyPut (fun _ _ => true) key) none := fun key =>
    records_of_answered hrun (halone key) fun index put hput =>
      absurd (hput.symm.trans (hdone index)) (Option.some_ne_none put)
  exact ⟨w, hrun, (hrecords _).trans (by decide), (hrecords _).trans (by decide)⟩

end Run

end InstaGLAM.FirebaseDatabase
