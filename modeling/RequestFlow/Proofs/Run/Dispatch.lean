import RequestFlow.Proofs.Plan.Order
import RequestFlow.Proofs.Run.Accounting

/-!
# RequestFlow.Proofs.Run.Dispatch

Which requests a run sends, and when. A trace tells the state in which each leaf was started,
and that state decides whether the leaf sends a request.

* `Starts`        — a leaf is started in a state that the trace tells.
* `Dispatched`    — what a part of a trace tells of the requests of some leaves; such parts
  are put together by `Dispatched.append`.
* `SafeDispatch`  — the requests of a run come in order and after all dependencies, at most
  one for each leaf, and just those that could be sent.
* `dispatch_safe` — every run of a plan dispatches safely, whatever the host does.
-/

namespace RequestFlow
namespace Run

def senders (t : Trace) : List String :=
  t.filterMap fun
    | .sent name _ => some name
    | _ => none

@[simp] theorem senders_append (t u : Trace) : senders (t ++ u) = senders t ++ senders u :=
  List.filterMap_append

theorem mem_senders {t : Trace} {name : String} :
    name ∈ senders t ↔ ∃ out, Effect.sent name out ∈ t := by
  rw [senders, List.mem_filterMap]
  constructor
  · rintro ⟨e, he, hname⟩
    cases e <;> cases hname
    exact ⟨_, he⟩
  · rintro ⟨out, he⟩
    exact ⟨_, he, rfl⟩

theorem mem_sent {t : Trace} {out : Outgoing} : out ∈ sent t ↔ ∃ name, Effect.sent name out ∈ t := by
  rw [sent, List.mem_filterMap]
  constructor
  · rintro ⟨e, he, hout⟩
    cases e <;> cases hout
    exact ⟨_, he⟩
  · rintro ⟨name, he⟩
    exact ⟨_, he, rfl⟩

theorem append_eq_middle {α : Type} {a b before after : List α} {x : α}
    (h : a ++ b = before ++ x :: after) :
    (∃ rest, a = before ++ x :: rest) ∨ ∃ rest, before = a ++ rest ∧ b = rest ++ x :: after := by
  obtain ⟨rest, hbefore, hb⟩ | ⟨rest, ha, hrest⟩ := List.append_eq_append_iff.mp h
  · exact .inr ⟨rest, hbefore, hb⟩
  · cases rest with
    | nil => exact .inr ⟨[], by simpa using ha.symm, by simpa using hrest.symm⟩
    | cons y rest =>
      cases (List.cons.inj hrest).1
      exact .inl ⟨rest, ha⟩

/-! ## The start of a leaf -/

/-- The state that a trace tells, with the variables at its end. -/
def stateAt (h : Host) (globals : Vars) (t : Trace) : State :=
  ⟨globals, t, cancelledBy h t⟩

theorem Faithful.stateAt {h : Host} {s : State} (hs : Faithful h s) :
    stateAt h s.globals s.trace = s := by
  rw [Run.stateAt, ← hs]

/-- In the part `t` of a trace, which follows `seen`, a leaf is started in the state `s`. -/
def Starts (h : Host) (seen t : Trace) (leaf : Leaf) (s : State) : Prop :=
  ∃ before globals after,
    t = before ++ .event (.leafStarted leaf.name leaf.isGlobal) globals :: after ∧
      s = stateAt h globals
        (seen ++ before ++ [.event (.leafStarted leaf.name leaf.isGlobal) globals])

theorem Starts.mem_events {h : Host} {seen t : Trace} {leaf : Leaf} {s : State}
    (hs : Starts h seen t leaf s) : .leafStarted leaf.name leaf.isGlobal ∈ events t := by
  obtain ⟨before, globals, after, rfl, _⟩ := hs
  simp

theorem starts_append {h : Host} {seen t u : Trace} {leaf : Leaf} {s : State} :
    Starts h seen (t ++ u) leaf s ↔ Starts h seen t leaf s ∨ Starts h (seen ++ t) u leaf s := by
  constructor
  · rintro ⟨before, globals, after, ht, hs⟩
    obtain ⟨rest, ht⟩ | ⟨rest, hbefore, hu⟩ := append_eq_middle ht
    · exact .inl ⟨before, globals, rest, ht, hs⟩
    · exact .inr ⟨rest, globals, after, hu, by rw [hs, hbefore, List.append_assoc seen t]⟩
  · rintro (⟨before, globals, after, ht, hs⟩ | ⟨before, globals, after, hu, hs⟩)
    · exact ⟨before, globals, after ++ u, by simp [ht], hs⟩
    · exact ⟨t ++ before, globals, after, by simp [hu], by rw [hs, List.append_assoc seen t]⟩

/-! ## Parts of a run -/

/-- What the part `t` of a trace, which follows `seen`, tells of the requests of `leaves`, which
are numbered from `i` on. -/
structure Dispatched (h : Host) (i : Nat) (seen : Trace) (leaves : List Leaf) (t : Trace) :
    Prop where
  started : ∀ name isGlobal, .leafStarted name isGlobal ∈ events t → name ∈ leaves.map (·.name)
  finished : ∀ r, .leafFinished r ∈ events t →
    ∃ l ∈ leaves, r.name = l.name ∧ r.mandatory = l.mandatory
  senders : (senders t).Sublist (leaves.map (·.name))
  sent_iff : ∀ j leaf out, leaves[j]? = some leaf → (.sent leaf.name out ∈ t ↔
    ∃ s, Starts h seen t leaf s ∧ Dispatches h leaf [i + j] s out)
  earlier : ∀ before name out after, t = before ++ .sent name out :: after →
    ∃ front leaf back, leaves = front ++ leaf :: back ∧ leaf.name = name ∧
      ∀ l ∈ front, ∃ r, .leafFinished r ∈ events before ∧ r.name = l.name
  mandatory : ∀ before name out after, t = before ++ .sent name out :: after →
    ∀ r, .leafFinished r ∈ events before → r.mandatory = true → r.passed = true

namespace Dispatched

variable {h : Host} {i : Nat} {seen t u : Trace} {front back leaves : List Leaf}

theorem not_started (ht : Dispatched h i seen leaves t) {leaf : Leaf}
    (hl : leaf.name ∉ leaves.map (·.name)) (s : State) : ¬ Starts h seen t leaf s :=
  fun hs => hl (ht.started _ _ hs.mem_events)

theorem not_sent (ht : Dispatched h i seen leaves t) {leaf : Leaf}
    (hl : leaf.name ∉ leaves.map (·.name)) (out : Outgoing) : .sent leaf.name out ∉ t :=
  fun hs => hl (ht.senders.subset (mem_senders.mpr ⟨out, hs⟩))

/-- A part of a trace between the leaves. -/
theorem quiet (hstart : ∀ name isGlobal, .leafStarted name isGlobal ∉ events t)
    (hfinish : ∀ r, .leafFinished r ∉ events t) (hsent : Run.senders t = []) (i : Nat)
    (seen : Trace) (leaves : List Leaf) : Dispatched h i seen leaves t := by
  have hnone : ∀ name out, Effect.sent name out ∉ t := by
    intro name out he
    have hmem := mem_senders.mpr ⟨out, he⟩
    rw [hsent] at hmem
    cases hmem
  refine {
    started := fun name isGlobal he => absurd he (hstart name isGlobal)
    finished := fun r he => absurd he (hfinish r)
    senders := by simp [hsent]
    sent_iff := fun j leaf out _ => ?_
    earlier := fun before name out after ht => absurd ?_ (hnone name out)
    mandatory := fun before name out after ht => absurd ?_ (hnone name out) }
  · constructor
    · exact fun he => absurd he (hnone leaf.name out)
    · rintro ⟨s, hs, _⟩
      exact absurd hs.mem_events (hstart _ _)
  · simp [ht]
  · simp [ht]

/-- Two parts of a run. If the second one sends requests at all, then all leaves of the first
have come to their end, the mandatory ones successfully. -/
theorem append (ht : Dispatched h i seen front t)
    (hu : Dispatched h (i + front.length) (seen ++ t) back u)
    (hdisjoint : ∀ l ∈ front, l.name ∉ back.map (·.name))
    (hended : Run.senders u ≠ [] →
      (∀ l ∈ front, ∃ r, .leafFinished r ∈ events t ∧ r.name = l.name) ∧
      ∀ r, .leafFinished r ∈ events t → r.mandatory = true → r.passed = true) :
    Dispatched h i seen (front ++ back) (t ++ u) := by
  have hsends : ∀ name out, Effect.sent name out ∈ u → Run.senders u ≠ [] := by
    intro name out he
    exact List.ne_nil_of_mem (mem_senders.mpr ⟨out, he⟩)
  refine {
    started := fun name isGlobal he => ?_
    finished := fun r he => ?_
    senders := ?_
    sent_iff := fun j leaf out hj => ?_
    earlier := fun before name out after hsplit => ?_
    mandatory := fun before name out after hsplit r hr => ?_ }
  · rw [events_append, List.mem_append] at he
    rw [List.map_append, List.mem_append]
    exact he.imp (ht.started name isGlobal) (hu.started name isGlobal)
  · rw [events_append, List.mem_append] at he
    rcases he with he | he
    · obtain ⟨l, hl, hfields⟩ := ht.finished r he
      exact ⟨l, List.mem_append_left _ hl, hfields⟩
    · obtain ⟨l, hl, hfields⟩ := hu.finished r he
      exact ⟨l, List.mem_append_right _ hl, hfields⟩
  · rw [senders_append, List.map_append]
    exact ht.senders.append hu.senders
  · rw [List.mem_append]
    simp only [starts_append]
    by_cases hlt : j < front.length
    · rw [List.getElem?_append_left hlt] at hj
      have hl := hdisjoint leaf (List.mem_of_getElem? hj)
      simp only [hu.not_sent hl, hu.not_started hl, or_false]
      exact ht.sent_iff j leaf out hj
    · rw [List.getElem?_append_right (Nat.le_of_not_lt hlt)] at hj
      have hl : leaf.name ∉ front.map (·.name) := by
        intro hmem
        obtain ⟨l, hfront, hname⟩ := List.mem_map.mp hmem
        exact hdisjoint l hfront (hname ▸ List.mem_map_of_mem (List.mem_of_getElem? hj))
      have hsite : i + front.length + (j - front.length) = i + j := by omega
      simp only [ht.not_sent hl, ht.not_started hl, false_or]
      rw [hu.sent_iff _ leaf out hj, hsite]
  · obtain ⟨rest, hrest⟩ | ⟨rest, rfl, hrest⟩ := append_eq_middle hsplit
    · obtain ⟨front', leaf, back', rfl, hname, hfinished⟩ := ht.earlier before name out rest hrest
      exact ⟨front', leaf, back' ++ back, by simp, hname, hfinished⟩
    · obtain ⟨front', leaf, back', rfl, hname, hfinished⟩ := hu.earlier rest name out after hrest
      refine ⟨front ++ front', leaf, back', by simp, hname, fun l hl => ?_⟩
      rw [events_append]
      rcases List.mem_append.mp hl with hl | hl
      · obtain ⟨r, hr, hrname⟩ := (hended (hsends name out (by simp [hrest]))).1 l hl
        exact ⟨r, List.mem_append_left _ hr, hrname⟩
      · obtain ⟨r, hr, hrname⟩ := hfinished l hl
        exact ⟨r, List.mem_append_right _ hr, hrname⟩
  · obtain ⟨rest, hrest⟩ | ⟨rest, rfl, hrest⟩ := append_eq_middle hsplit
    · exact ht.mandatory before name out rest hrest r hr
    · rw [events_append, List.mem_append] at hr
      rcases hr with hr | hr
      · exact (hended (hsends name out (by simp [hrest]))).2 r hr
      · exact hu.mandatory rest name out after hrest r hr

end Dispatched

/-! ## Runs -/

theorem senders_own {name : String} {es : List Effect} (hown : ∀ e ∈ es, OwnEffect name e) :
    senders es = (sent es).map fun _ => name := by
  induction es with
  | nil => rfl
  | cons e es ih =>
    have ih := ih fun x hx => hown x (List.mem_cons_of_mem _ hx)
    cases hown e (List.mem_cons_self ..) with
    | hook side => exact ih
    | waited => exact ih
    | expansion => exact ih
    | sent out => exact congrArg (name :: ·) ih

/-- What one leaf adds to a trace. -/
def leafTrace (leaf : Leaf) (globals : Vars) (own : Trace) (r : Record) (globals' : Vars) : Trace :=
  .event (.leafStarted leaf.name leaf.isGlobal) globals ::
    (own ++ [.event (.leafFinished r) globals'])

section LeafTrace

variable {h : Host} {i : Nat} {seen own : Trace} {leaf : Leaf} {r : Record}
variable {globals globals' : Vars} {o : Option Outgoing}

theorem events_leafTrace (hown : ∀ e ∈ own, OwnEffect leaf.name e) :
    events (leafTrace leaf globals own r globals') =
      [.leafStarted leaf.name leaf.isGlobal, .leafFinished r] := by
  simp [leafTrace, events_own hown]

theorem senders_leafTrace (hown : ∀ e ∈ own, OwnEffect leaf.name e) (ho : sent own = o.toList) :
    senders (leafTrace leaf globals own r globals') = o.toList.map fun _ => leaf.name := by
  show senders (own ++ [.event (.leafFinished r) globals']) = _
  rw [senders_append, senders_own hown, ho]
  simp [senders]

@[simp] theorem sent_leafTrace : sent (leafTrace leaf globals own r globals') = sent own := by
  simp [leafTrace]

theorem sent_mem_leafTrace (hown : ∀ e ∈ own, OwnEffect leaf.name e) (ho : sent own = o.toList)
    (out : Outgoing) :
    .sent leaf.name out ∈ leafTrace leaf globals own r globals' ↔ o = some out := by
  have hmem : Effect.sent leaf.name out ∈ own ↔ out ∈ sent own := by
    rw [mem_sent]
    refine ⟨fun he => ⟨_, he⟩, fun ⟨name, he⟩ => ?_⟩
    cases hown _ he
    exact he
  simp [leafTrace, hmem, ho]

theorem starts_leafTrace (hown : ∀ e ∈ own, OwnEffect leaf.name e) (s : State) :
    Starts h seen (leafTrace leaf globals own r globals') leaf s ↔
      s = stateAt h globals (seen ++ [.event (.leafStarted leaf.name leaf.isGlobal) globals]) := by
  constructor
  · rintro ⟨before, globals₁, after, ht, rfl⟩
    cases before with
    | nil =>
      cases (List.cons.inj ht).1
      simp
    | cons e before =>
      -- after its first event a leaf is not started again
      have hmem : .leafStarted leaf.name leaf.isGlobal ∈
          events (own ++ [.event (.leafFinished r) globals']) := by
        rw [(List.cons.inj ht).2]
        simp
      simp [events_own hown] at hmem
  · rintro rfl
    exact ⟨[], globals, _, rfl, by simp⟩

/-- Nothing is finished before a leaf has sent its request. -/
theorem events_before_sent (hown : ∀ e ∈ own, OwnEffect leaf.name e) {before after : Trace}
    {name : String} {out : Outgoing}
    (ht : leafTrace leaf globals own r globals' = before ++ .sent name out :: after) :
    events before = [.leafStarted leaf.name leaf.isGlobal] := by
  cases before with
  | nil => cases (List.cons.inj ht).1
  | cons e before =>
    obtain ⟨he, ht⟩ := List.cons.inj ht
    obtain ⟨rest, hrest⟩ | ⟨rest, _, hrest⟩ := append_eq_middle ht
    · have hnone : events before = [] :=
        events_own fun x hx => hown x (hrest ▸ List.mem_append_left _ hx)
      rw [← he, events_event, hnone]
    · cases rest with
      | nil => cases (List.cons.inj hrest).1
      | cons x rest => simp at hrest

theorem Dispatched.single (hname : r.name = leaf.name) (hmandatory : r.mandatory = leaf.mandatory)
    (hown : ∀ e ∈ own, OwnEffect leaf.name e) (ho : sent own = o.toList)
    (hiff : ∀ out, o = some out ↔ Dispatches h leaf [i] (stateAt h globals
      (seen ++ [.event (.leafStarted leaf.name leaf.isGlobal) globals])) out) :
    Dispatched h i seen [leaf] (leafTrace leaf globals own r globals') := by
  have hsenders : Run.senders (leafTrace leaf globals own r globals') =
      o.toList.map fun _ => leaf.name := senders_leafTrace hown ho
  refine {
    started := fun name isGlobal he => ?_
    finished := fun r' he => ?_
    senders := ?_
    sent_iff := fun j leaf' out hj => ?_
    earlier := fun before name out after ht => ?_
    mandatory := fun before name out after ht r' hr => ?_ }
  · rw [events_leafTrace hown] at he
    simp at he
    simp [he.1]
  · rw [events_leafTrace hown] at he
    simp at he
    simp [he, hname, hmandatory]
  · rw [hsenders]
    cases o <;> simp
  · cases j with
    | succ j => cases hj
    | zero =>
      cases hj
      rw [sent_mem_leafTrace hown ho, hiff]
      simp [starts_leafTrace hown]
  · have hmem : name ∈ Run.senders (leafTrace leaf globals own r globals') :=
      mem_senders.mpr ⟨out, by simp [ht]⟩
    rw [hsenders] at hmem
    obtain ⟨_, _, rfl⟩ := List.mem_map.mp hmem
    exact ⟨[], leaf, [], rfl, rfl, by simp⟩
  · rw [events_before_sent hown ht] at hr
    simp at hr

end LeafTrace

theorem leafStep_dispatched {h : Host} {i : Nat} {s s' : State} {leaf : Leaf} {r : Record}
    (hf : Faithful h s) (hs : leafStep h i s leaf = (s', r)) :
    Faithful h s' ∧ ∃ t, s'.trace = s.trace ++ t ∧ events t = recordEvents r ∧
      Dispatched h i s.trace [leaf] t := by
  have hstart : Faithful h (s.emit h (.leafStarted leaf.name leaf.isGlobal)) := hf.emit _
  obtain ⟨⟨⟨own, htrace, hown⟩, hfaithful⟩, o, ho, hiff⟩ :=
    execute_sends h leaf [i] (s.emit h (.leafStarted leaf.name leaf.isGlobal))
  have hsent : sent own = o.toList := by
    rw [htrace, sent_append] at ho
    exact List.append_cancel_left ho
  have hname := leafStep_name hs
  have hmandatory := leafStep_mandatory hs
  refine ⟨?_, leafTrace leaf s.globals own r s'.globals, ?_, ?_, ?_⟩
  · cases hs
    exact (hfaithful hstart).emit _
  · cases hs
    rw [emit_trace, htrace]
    simp [leafTrace]
  · rw [events_leafTrace hown, recordEvents, hname, leafStep_isGlobal hs]
  · refine .single hname hmandatory hown hsent fun out => ?_
    rw [hiff, ← hstart.stateAt]
    rfl

theorem Runs.dispatched {h : Host} {i : Nat} {s : State} {leaves : List Leaf} {o : Outcome}
    (hr : Runs h i s leaves o) (hf : Faithful h s) (hnodup : (leaves.map (·.name)).Nodup) :
    ∃ t, o.state.trace = s.trace ++ t ∧ Dispatched h i s.trace leaves t := by
  induction hr with
  | done i s => exact ⟨[], by simp, .quiet (by simp) (by simp) rfl i s.trace []⟩
  | @stopped i s leaf rest _ =>
    exact ⟨[], by simp, .quiet (by simp) (by simp) rfl i s.trace (leaf :: rest)⟩
  | @interrupted i s s' leaf rest r _ hs _ =>
    obtain ⟨_, t, ht, _, hleaf⟩ := leafStep_dispatched hf hs
    rw [List.map_cons, List.nodup_cons] at hnodup
    have hrest : Dispatched h (i + 1) (s.trace ++ t) rest [] :=
      .quiet (by simp) (by simp) rfl _ _ _
    refine ⟨t, ht, ?_⟩
    have hall := hleaf.append hrest (by simpa using hnodup.1) (by simp [senders])
    rwa [List.append_nil] at hall
  | @aborted i s s' leaf rest r _ hs _ _ _ =>
    obtain ⟨_, t, ht, _, hleaf⟩ := leafStep_dispatched hf hs
    rw [List.map_cons, List.nodup_cons] at hnodup
    have hrest : Dispatched h (i + 1) (s.trace ++ t) rest
        [.event (.runAborted leaf.name) s'.globals] := .quiet (by simp) (by simp) rfl _ _ _
    refine ⟨t ++ [.event (.runAborted leaf.name) s'.globals], by simp [ht], ?_⟩
    exact hleaf.append hrest (by simpa using hnodup.1) (by simp [senders])
  | @next i s s' leaf rest r o _ hs _ hm _ ih =>
    obtain ⟨hf', t, ht, hevents, hleaf⟩ := leafStep_dispatched hf hs
    rw [List.map_cons, List.nodup_cons] at hnodup
    obtain ⟨u, hu, hrest⟩ := ih hf' hnodup.2
    rw [ht] at hu hrest
    refine ⟨t ++ u, by rw [← List.append_assoc]; exact hu, ?_⟩
    refine hleaf.append hrest (by simpa using hnodup.1) fun _ => ⟨?_, ?_⟩
    · intro l hl
      cases List.mem_singleton.mp hl
      exact ⟨r, by simp [hevents, recordEvents], leafStep_name hs⟩
    · intro r' hr' hmandatory
      simp [hevents, recordEvents] at hr'
      cases hr'
      exact hm (leafStep_mandatory hs ▸ hmandatory)

theorem closed_trace (h : Host) (o : Outcome) :
    ∃ u, (o.closed h).state.trace = o.state.trace ++ u ∧ senders u = [] ∧
      events u = cancelEvents o.report ++ [o.report.finished] := by
  cases hc : o.report.cancelled with
  | false =>
    exact ⟨[.event o.report.finished o.state.globals], by simp [Outcome.closed, hc], rfl,
      by simp [cancelEvents, hc]⟩
  | true =>
    exact ⟨[.event .runCancelled o.state.globals, .event o.report.finished o.state.globals],
      by simp [Outcome.closed, hc], rfl, by simp [cancelEvents, hc]⟩

theorem Runs.closed_dispatched {h : Host} {globals : Vars} {leaves : List Leaf} {o : Outcome}
    (hr : Runs h 0 (opened h globals leaves) leaves o) (hnodup : (leaves.map (·.name)).Nodup) :
    Dispatched h 0 [] leaves (o.closed h).state.trace := by
  obtain ⟨t, ht, hrun⟩ := hr.dispatched ((Faithful.start h globals).emit _) hnodup
  have hopen : Dispatched h 0 [] [] (opened h globals leaves).trace :=
    .quiet (by simp [opened, State.start]) (by simp [opened, State.start]) rfl _ _ _
  have hbegun : Dispatched h 0 [] leaves o.state.trace := by
    rw [ht]
    exact hopen.append hrun (by simp) fun _ => ⟨by simp, by simp [opened, State.start]⟩
  obtain ⟨u, hu, hsenders, hevents⟩ := closed_trace h o
  have hclose : Dispatched h (0 + leaves.length) ([] ++ o.state.trace) [] u := by
    refine .quiet ?_ ?_ hsenders _ _ _ <;> simp [hevents, cancelEvents, Report.finished]
  rw [hu]
  simpa using hbegun.append hclose (by simp) (by simp [hsenders])

/-! ## Plans -/

/-- What the trace of a run of `order` tells of its requests. -/
structure SafeDispatch (d : Document) (h : Host) (order : List String) (t : Trace) : Prop where
  /-- The requests come from leaves in their order, at most one from each. -/
  ordered : (senders t).Sublist order
  /-- A leaf sends a request just if it was started and nothing on its way failed. -/
  sent_iff : ∀ leaf ∈ d.leaves, ∀ out, .sent leaf.name out ∈ t ↔
    ∃ s, Starts h [] t leaf s ∧ Dispatches h leaf [order.idxOf leaf.name] s out
  dependencies : ∀ leaf ∈ d.leaves, ∀ before out after,
    t = before ++ .sent leaf.name out :: after →
      ∀ n ∈ leaf.dependsOn, ∃ r, .leafFinished r ∈ events before ∧ r.name = n
  mandatory : ∀ before name out after, t = before ++ .sent name out :: after →
    ∀ r, .leafFinished r ∈ events before →
      ∀ leaf ∈ d.leaves, leaf.name = r.name → leaf.mandatory = true → r.passed = true

theorem leavesNamed_orders {d : Document} {order : List String} (hd : d.names.Nodup)
    (ho : d.Orders order) : ∃ leaves, d.leavesNamed order = .ok leaves := by
  cases hl : d.leavesNamed order with
  | ok leaves => exact ⟨leaves, rfl⟩
  | error e =>
    obtain ⟨hmem, hnone⟩ := leavesNamed_error hl
    obtain ⟨leaf, hleaf, hname⟩ := List.mem_map.mp (ho.perm.subset hmem)
    rw [← hname, Document.get?_of_mem hd hleaf] at hnone
    cases hnone

theorem Dispatched.safe {d : Document} {h : Host} {order : List String} {leaves : List Leaf}
    {t : Trace} (hd : d.names.Nodup) (ho : d.Orders order)
    (hl : d.leavesNamed order = .ok leaves) (ht : Dispatched h 0 [] leaves t) :
    SafeDispatch d h order t := by
  obtain ⟨rfl, hget⟩ := leavesNamed_ok hl
  have hnodup : (leaves.map (·.name)).Nodup := ho.perm.nodup_iff.mpr hd
  have hsame : ∀ leaf ∈ d.leaves, ∀ l ∈ leaves, leaf.name = l.name → leaf = l := by
    intro leaf hleaf l hl hname
    have := Document.get?_of_mem hd hleaf
    rw [hname, hget l hl] at this
    exact (Option.some.inj this).symm
  refine {
    ordered := ht.senders
    sent_iff := fun leaf hleaf out => ?_
    dependencies := fun leaf hleaf before out after hsplit n hn => ?_
    mandatory := fun before name out after hsplit r hr leaf hleaf hname hmandatory => ?_ }
  · have hmem : leaf.name ∈ leaves.map (·.name) :=
      ho.perm.mem_iff.mpr (List.mem_map_of_mem hleaf)
    have hlt : (leaves.map (·.name)).idxOf leaf.name < leaves.length := by
      simpa using List.idxOf_lt_length_of_mem hmem
    have hname : leaf.name = leaves[(leaves.map (·.name)).idxOf leaf.name].name := by
      have := List.getElem_idxOf (List.idxOf_lt_length_of_mem hmem)
      rw [List.getElem_map] at this
      exact this.symm
    have hget? := List.getElem?_eq_getElem hlt
    rw [← hsame leaf hleaf _ (List.getElem_mem hlt) hname] at hget?
    simpa using ht.sent_iff _ leaf out hget?
  · obtain ⟨front, l, back, rfl, hname, hfinished⟩ := ht.earlier before leaf.name out after hsplit
    have hafter := ho.after leaf hleaf n hn
    rw [List.map_append, List.map_cons] at hafter hnodup
    have hl : l.name ∉ front.map (·.name) := fun hmem =>
      (List.nodup_append.mp hnodup).2.2 l.name hmem l.name (List.mem_cons_self ..) rfl
    rw [← hname, List.idxOf_append_of_notMem hl, List.idxOf_cons_self] at hafter
    have hmem : n ∈ front.map (·.name) := by
      by_contra hnot
      rw [List.idxOf_append_of_notMem hnot] at hafter
      omega
    obtain ⟨l', hl', rfl⟩ := List.mem_map.mp hmem
    exact hfinished l' hl'
  · obtain ⟨l, hl, hrname, hrmandatory⟩ := ht.finished r (by simp [hsplit, hr])
    cases hsame leaf hleaf l hl (hname.trans hrname)
    exact ht.mandatory before name out after hsplit r hr (hrmandatory.trans hmandatory)

/-- Every run of a plan gets under way, and whatever the host does, it dispatches safely. -/
theorem dispatch_safe {bytes : Text.Utf8.Bytes} {d : Document} {p : Plan}
    (hd : Document.read bytes = .ok d) (hp : d.plan = .ok p) (h : Host) (globals : Vars) :
    p.order.Nodup ∧
      ∃ o, d.run h p.order globals = .ok o ∧ SafeDispatch d h p.order o.state.trace := by
  have hnodup := Document.read_names_nodup hd
  have ho := Plan.plan_orders hnodup hp
  have horder : p.order.Nodup := ho.perm.nodup_iff.mpr hnodup
  obtain ⟨leaves, hl⟩ := leavesNamed_orders hnodup ho
  refine ⟨horder, runAll h globals leaves, by simp [Document.run, hl], ?_⟩
  have hr := runs_runLeaves h leaves 0 (opened h globals leaves)
  have hnames : (leaves.map (·.name)).Nodup := by rwa [(leavesNamed_ok hl).1]
  rw [runAll_eq]
  exact (hr.closed_dispatched hnames).safe hnodup ho hl

/-- Leaf `b` waits for the mandatory leaf declared after it, and both have a request. -/
def twoRequests : Document :=
  ⟨[{ name := "b", request := some { method := "GET", url := "http://h/b" }, dependsOn := ["a"] },
    { name := "a", request := some { method := "GET", url := "http://h/a" }, mandatory := true }]⟩

def plainHost : Host where
  engine := ⟨fun _ _ => .ok ⟨fun _ => false, fun _ _ scene => .done scene none⟩⟩
  client := fun _ _ => .response { status := 200 }
  lockHeld := fun _ => false
  cancels := fun _ => false

theorem dispatch_safe_twoRequests :
    ∃ o, twoRequests.run plainHost ["a", "b"] [] = .ok o ∧
      SafeDispatch twoRequests plainHost ["a", "b"] o.state.trace ∧
      senders o.state.trace = ["a", "b"] := by
  have hread : Document.read (Text.Utf8.encode
      "b(depends_on{a}do{GET http://h/b})a(mandatory{}do{GET http://h/a})") =
        .ok twoRequests := rfl
  have hsenders : (twoRequests.run plainHost ["a", "b"] []).toOption.map
      (fun o => senders o.state.trace) = some ["a", "b"] := by decide +kernel
  obtain ⟨_, o, ho, hsafe⟩ := dispatch_safe hread (p := ⟨["a", "b"], _, _⟩) rfl plainHost []
  rw [ho] at hsenders
  exact ⟨o, ho, hsafe, Option.some.inj hsenders⟩

end Run
end RequestFlow
