import QuoteBridge.Bus.Recorder
import QuoteBridge.Proofs.Adapter.Journal
import QuoteBridge.Proofs.Generator.Run
import QuoteBridge.Proofs.Message.RoundTrip
import QuoteBridge.Proofs.Request.RoundTrip

/-!
# Snapshots on the bus

What a subscription gets from the generator, from its registration on until another one takes its
place, it is removed or all of them are cleared.

**Attempts.**  The gate counts a snapshot as sent before the bus has taken it.  So the first attempt
of a subscription is its snapshot and every later one a change, whatever the bus takes.

**Results.**
* `Trail.tenured`: how far a subscription has come, as the gate and the tape have it.
* `snapshotFirst_taken_iff`: if the bus does not take the snapshot, the first update that it takes
  is a change.
* `snapshot_first_iff`: the first update that the bus takes is the snapshot exactly if the bus takes
  the first one that is sent, or none.
-/

namespace QuoteBridge
namespace Generator

section Lists

/-- Whether an entry ends the subscription that an item has. -/
def Entry.ends (i : Item) : Entry → Bool
  | .registered j _ => j = i
  | .ended j => j = i
  | .cleared => true
  | .sent _ _ => false

/-- The update of an item that an entry tries to send, and whether the bus takes it. -/
def Entry.attempt? (i : Item) : Entry → Option (Update × Bool)
  | .sent p accepted =>
      match Message.decode p with
      | some (.update u) => if u.item = i then some (u, accepted) else none
      | _ => none
  | _ => none

/-- The updates of an item that the generator tries to send. -/
def attempts (i : Item) (tape : List Entry) : List (Update × Bool) :=
  tape.filterMap (Entry.attempt? i)

/-- The attempts that the bus takes. -/
def taken (as : List (Update × Bool)) : List Update := (as.filter (·.2)).map (·.1)

/-- The first update is a snapshot, and no later one is. -/
def SnapshotFirst (us : List Update) : Prop :=
  (∀ u ∈ us.head?, u.isSnapshot = true) ∧ ∀ u ∈ us.tail, u.isSnapshot = false

variable {i : Item}

@[simp] theorem attempts_append (tape tape' : List Entry) :
    attempts i (tape ++ tape') = attempts i tape ++ attempts i tape' :=
  List.filterMap_append

theorem attempts_update (u : Update) (accepted : Bool) :
    attempts i [.sent (Message.update u).encode accepted] =
      if u.item = i then [(u, accepted)] else [] := by
  by_cases h : u.item = i <;> simp [attempts, Entry.attempt?, Message.decode_encode, h]

theorem attempts_heartbeat (e : Epoch) (accepted : Bool) :
    attempts i [.sent (Message.heartbeat e).encode accepted] = [] := by
  simp [attempts, Entry.attempt?, Message.decode_encode]

@[simp] theorem snapshotFirst_nil : SnapshotFirst [] := by simp [SnapshotFirst]

@[simp] theorem snapshotFirst_cons (u : Update) (us : List Update) :
    SnapshotFirst (u :: us) ↔ u.isSnapshot = true ∧ ∀ v ∈ us, v.isSnapshot = false := by
  simp [SnapshotFirst]

theorem snapshotFirst_concat {us : List Update} {u : Update} (h : SnapshotFirst us)
    (hne : us ≠ []) (hu : u.isSnapshot = false) : SnapshotFirst (us ++ [u]) := by
  cases us with
  | nil => exact absurd rfl hne
  | cons v us =>
      obtain ⟨hv, hrest⟩ := (snapshotFirst_cons v us).mp h
      refine (snapshotFirst_cons v (us ++ [u])).mpr ⟨hv, fun w hw => ?_⟩
      rcases List.mem_append.mp hw with hw | hw
      · exact hrest w hw
      · rw [List.mem_singleton.mp hw, hu]

/-- Of attempts whose first one is the snapshot the bus takes the snapshot first exactly if it takes
the first one, or none. -/
theorem snapshotFirst_taken_iff {as : List (Update × Bool)}
    (h : SnapshotFirst (as.map (·.1))) :
    SnapshotFirst (taken as) ↔ taken as = [] ∨ ∃ u rest, as = (u, true) :: rest := by
  cases as with
  | nil => exact ⟨fun _ => Or.inl rfl, fun _ => snapshotFirst_nil⟩
  | cons a as =>
      obtain ⟨u, accepted⟩ := a
      obtain ⟨hu, hrest⟩ := (snapshotFirst_cons _ _).mp h
      have hlater : ∀ v ∈ taken as, v.isSnapshot = false := by
        intro v hv
        obtain ⟨a, ha, rfl⟩ := List.mem_map.mp hv
        exact hrest a.1 (List.mem_map_of_mem (List.mem_filter.mp ha).1)
      cases accepted with
      | true =>
          have htaken : taken ((u, true) :: as) = u :: taken as := by simp [taken]
          rw [htaken, snapshotFirst_cons]
          exact ⟨fun _ => Or.inr ⟨u, as, rfl⟩, fun _ => ⟨hu, hlater⟩⟩
      | false =>
          have hskip : taken ((u, false) :: as) = taken as := by simp [taken]
          rw [hskip]
          constructor
          · intro hfirst
            cases hl : taken as with
            | nil => exact Or.inl rfl
            | cons v vs =>
                rw [hl] at hfirst hlater
                simp [hlater v List.mem_cons_self] at hfirst
          · rintro (hnil | ⟨v, rest, heq⟩)
            · rw [hnil]
              exact snapshotFirst_nil
            · simp at heq

end Lists

section Tenures

variable {i : Item} {n : SubscriptionId}

/-- How far a subscription has come since its registration. -/
structure Tenured (i : Item) (n : SubscriptionId) (g : Gate) (span : List Entry) : Prop where
  held : g.tenure? i = some ⟨n, !(attempts i span).isEmpty⟩
  ids : ∀ a ∈ attempts i span, a.1.subscriptionId = n
  first : SnapshotFirst ((attempts i span).map (·.1))

theorem Tenured.registered (g : Gate) : Tenured i n (g.subscribe i n).2 [] :=
  ⟨g.tenure?_subscribe_self i n, by simp [attempts], snapshotFirst_nil⟩

/-- An entry of another item, or a heartbeat, changes nothing. -/
theorem Tenured.aside {g g' : Gate} {span : List Entry} {x : Entry} (h : Tenured i n g span)
    (hg : g'.tenure? i = g.tenure? i) (hx : attempts i [x] = []) :
    Tenured i n g' (span ++ [x]) := by
  have hall : attempts i (span ++ [x]) = attempts i span := by
    rw [attempts_append, hx, List.append_nil]
  exact ⟨by rw [hg, hall]; exact h.held, by rw [hall]; exact h.ids, by rw [hall]; exact h.first⟩

/-- The first update that is sent is the snapshot, and every later one a change. -/
theorem Tenured.send {g g' : Gate} {span : List Entry} {u : Update} (h : Tenured i n g span)
    (hi : u.item = i) (hn : u.subscriptionId = n) (hu : u.isSnapshot = (attempts i span).isEmpty)
    (hg : g'.tenure? i = some ⟨n, true⟩) (accepted : Bool) :
    Tenured i n g' (span ++ [.sent (Message.update u).encode accepted]) := by
  have hnew : attempts i (span ++ [.sent (Message.update u).encode accepted]) =
      attempts i span ++ [(u, accepted)] := by
    rw [attempts_append, attempts_update, if_pos hi]
  refine ⟨?_, fun a ha => ?_, ?_⟩
  · rw [hnew, hg]
    simp
  · rw [hnew] at ha
    rcases List.mem_append.mp ha with ha | ha
    · exact h.ids a ha
    · rw [List.mem_singleton.mp ha]
      exact hn
  · rw [hnew, List.map_append]
    cases hbegun : attempts i span with
    | nil => simpa [hbegun] using hu
    | cons a as =>
        refine hbegun ▸ snapshotFirst_concat h.first (by simp [hbegun]) ?_
        simpa [hbegun] using hu

theorem Tenured.step {g g' : Gate} {span es : List Entry} (h : Tenured i n g span)
    (hs : Step g es g') (hes : ∀ x ∈ es, x.ends i = false) : Tenured i n g' (span ++ es) := by
  cases hs with
  | quiet => simpa using h
  | registered j m =>
      have hj : i ≠ j := by
        rintro rfl
        simp [Entry.ends] at hes
      exact h.aside (g.tenure?_subscribe_of_ne m hj) rfl
  | @ended j m hr =>
      have hj : i ≠ j := by
        rintro rfl
        simp [Entry.ends] at hes
      exact h.aside (g.tenure?_apply_unsubscribe_of_ne hj m) rfl
  | cleared => simp [Entry.ends] at hes
  | beat e accepted => exact h.aside rfl (attempts_heartbeat e accepted)
  | @passed e m isSnapshot hp epoch accepted =>
      by_cases he : e.item = i
      · subst he
        obtain ⟨hm, hsent, hg⟩ := g.tenure?_pass_of_publish h.held hp
        exact h.send rfl hm (by simpa using hsent) hg accepted
      · refine h.aside (g.tenure?_pass_of_ne (Ne.symm he) e.isSnapshot) ?_
        rw [attempts_update, if_neg he]

theorem Step.entries_cases {g g' : Gate} {es : List Entry} (h : Step g es g') :
    es = [] ∨ ∃ x, es = [x] := by
  cases h <;> simp

/-- How far the subscription of an item has come, as the gate and the tape have it. -/
theorem Trail.tenured {tape before span : List Entry} {g : Gate} (h : Trail tape g)
    (htape : tape = before ++ .registered i n :: span) (hspan : ∀ x ∈ span, x.ends i = false) :
    Tenured i n g span := by
  -- by induction on the trail: the last entry registers the subscription or leaves it there
  induction h generalizing span with
  | start => simp at htape
  | @step tape es g g' h hs ih =>
      rcases hs.entries_cases with rfl | ⟨x, rfl⟩
      · simpa using (ih (by simpa using htape) hspan).step hs (by simp)
      · rcases concat_eq_append_cons htape with ⟨-, hx, rfl⟩ | ⟨rest, rfl, rfl⟩
        · subst hx
          cases hs
          exact .registered g
        · have hrest := ih rfl (fun y hy => hspan y (List.mem_append_left _ hy))
          exact hrest.step hs (fun y hy => hspan y (List.mem_append_right _ hy))

/-- The trail up to some place on the tape. -/
theorem Trail.exists_of_append {tape rest : List Entry} {g : Gate} (h : Trail (tape ++ rest) g) :
    ∃ g', Trail tape g' := by
  generalize hall : tape ++ rest = all at h
  induction h generalizing rest with
  | start =>
      obtain ⟨rfl, -⟩ := List.append_eq_nil_iff.mp hall
      exact ⟨_, Trail.start⟩
  | @step all es g g' h hs ih =>
      rcases hs.entries_cases with rfl | ⟨x, rfl⟩
      · exact ih (by simpa using hall)
      · rcases List.eq_nil_or_concat rest with rfl | ⟨rest, y, rfl⟩
        · rw [List.append_nil] at hall
          exact ⟨g', hall ▸ h.step hs⟩
        · rw [List.concat_eq_append, ← List.append_assoc] at hall
          exact ih (List.append_inj' hall rfl).1

end Tenures

section Runs

variable {β H : Type}

/-- For every run of a generator, at a bus that accepts or refuses each payload as it likes, and from
the registration of a subscription on until it ends: the first update that the generator sends is the
snapshot and every later one a change, all on behalf of the subscription.  The updates that the bus
takes have the snapshot first, and only there, exactly if the bus takes none of them or the first
one that is sent. -/
theorem snapshot_first_iff (link : Link β) {c : GeneratorConfig} {g : Generator}
    (hg : create c = .ok g) (clock : Nat) (b : β) (acts : List (Act β)) (i : Item)
    (n : SubscriptionId) (before span rest : List Entry)
    (htape : (run link acts (fresh (H := H) g clock b)).2.bus.2 =
      before ++ .registered i n :: (span ++ rest))
    (hspan : ∀ x ∈ span, x.ends i = false) :
    (∀ a ∈ attempts i span, a.1.subscriptionId = n) ∧
      SnapshotFirst ((attempts i span).map (·.1)) ∧
      (SnapshotFirst (taken (attempts i span)) ↔
        taken (attempts i span) = [] ∨ ∃ u later, attempts i span = (u, true) :: later) := by
  have htrail : Trail _ (run link acts (fresh (H := H) g clock b)).1.gate :=
    trail_run hg clock b acts
  rw [htape, ← List.cons_append, ← List.append_assoc] at htrail
  obtain ⟨g', hcut⟩ := htrail.exists_of_append
  have htenured := hcut.tenured rfl hspan
  exact ⟨htenured.ids, htenured.first, snapshotFirst_taken_iff htenured.first⟩

/-- Brisk settings with a fixed run. -/
def demoConfig : GeneratorConfig := GeneratorConfig.brisk.withEpoch 7

def demo : Generator :=
  ⟨demoConfig, 7, .empty,
    ⟨⟨1, Outbox.requestsLabel, 2, [.empty, .empty], 2, Nat.two_pos, Pool.two_le_most⟩,
      ⟨2, Outbox.updatesLabel, 2, [.empty, .empty], 2, Nat.two_pos, Pool.two_le_most⟩⟩,
    .ofSeed 42, 0, [], [], [], false, false⟩

def demoItem : Item := Market.drawnItem 4

/-- A change of the item without any fields. -/
def demoChange : MarketEvent := ⟨demoItem, .empty, false⟩

def demoUpdate (isSnapshot : Bool) (n : SubscriptionId) : Update :=
  ⟨demoItem, if isSnapshot then demo.market.values demoItem else .empty, isSnapshot, n, 7⟩

/-- The bus refuses the snapshot of a subscription and takes the change behind it.  Then another
subscription takes the place of the first one, and the bus takes both. -/
def demoActs : List (Act Recorder) :=
  [.wire, .changeBus { Recorder.create [] with failing := some .notReady },
    .receive (Request.subscribe demoItem 1).text.toUTF8, .changeBus (Recorder.create []),
    .event demoChange, .receive (Request.subscribe demoItem 2).text.toUTF8, .event demoChange]

/-- The snapshot and the change of a subscription, the snapshot taken by the bus or not. -/
def demoSpan (accepted : Bool) (n : SubscriptionId) : List Entry :=
  [.sent (Message.update (demoUpdate true n)).encode accepted,
    .sent (Message.update (demoUpdate false n)).encode true]

theorem tape_demoActs :
    (run Recorder.link demoActs (fresh (H := Unit) demo 0 (Recorder.create []))).2.bus.2 =
      .registered demoItem 1 :: (demoSpan false 1 ++ .registered demoItem 2 :: demoSpan true 2) := by
  have hreceive : ∀ n (x : Generator × Scene (Taped Recorder) Unit),
      perform Recorder.link (.receive (Request.subscribe demoItem n).text.toUTF8) x =
        handle Recorder.link.taped (.subscribe demoItem n) x.1
          (mark [.registered demoItem n] x.2) := by
    intro n x
    simp only [perform, receive, marks, readRequest_text]
  have hevent : ∀ x : Generator × Scene (Taped Recorder) Unit,
      perform Recorder.link (.event demoChange) x =
        onEvent Recorder.link.taped demoChange x.1 x.2 := fun x => rfl
  simp only [run, demoActs, List.foldl_cons, List.foldl_nil, hreceive, hevent, handle, hear, onEvent,
    publishUpdate, Outbox.publish, Outbox.transmit, Message.encodeInto, Pool.body_acquire,
    ByteArray.empty_append]
  rfl

theorem create_demo : create demoConfig = .ok demo := rfl

theorem attempts_demoSpan (accepted : Bool) (n : SubscriptionId) :
    attempts demoItem (demoSpan accepted n) =
      [(demoUpdate true n, accepted), (demoUpdate false n, true)] := by
  rw [demoSpan, ← List.singleton_append, attempts_append, attempts_update, attempts_update]
  rfl

theorem demoSpan_lasts (accepted : Bool) (n : SubscriptionId) :
    ∀ x ∈ demoSpan accepted n, x.ends demoItem = false := by
  simp [demoSpan, Entry.ends]

/-- The demonstration: the second subscription has its snapshot first. -/
theorem snapshot_first_iff_demo :
    SnapshotFirst (taken (attempts demoItem (demoSpan true 2))) := by
  have htape : (run Recorder.link demoActs
      (fresh (H := Unit) demo 0 (Recorder.create []))).2.bus.2 =
      (.registered demoItem 1 :: demoSpan false 1) ++
        .registered demoItem 2 :: (demoSpan true 2 ++ []) := tape_demoActs
  obtain ⟨-, -, hfirst⟩ := snapshot_first_iff Recorder.link create_demo 0 (Recorder.create [])
    demoActs demoItem 2 _ (demoSpan true 2) [] htape (demoSpan_lasts true 2)
  exact hfirst.mpr (Or.inr ⟨_, _, attempts_demoSpan true 2⟩)

/-- A bus that refuses the snapshot of a subscription may take the change behind it. -/
theorem change_before_snapshot :
    ¬ ∀ (c : GeneratorConfig) (g : Generator), create c = .ok g →
      ∀ (clock : Nat) (b : Recorder) (acts : List (Act Recorder)) (i : Item) (n : SubscriptionId)
        (before span rest : List Entry),
        (run Recorder.link acts (fresh (H := Unit) g clock b)).2.bus.2 =
          before ++ .registered i n :: (span ++ rest) →
        (∀ x ∈ span, x.ends i = false) → SnapshotFirst (taken (attempts i span)) := by
  intro h
  have hfirst := h demoConfig demo create_demo 0 (Recorder.create []) demoActs demoItem 1 []
    (demoSpan false 1) (.registered demoItem 2 :: demoSpan true 2) tape_demoActs
    (demoSpan_lasts false 1)
  simp [attempts_demoSpan, taken, demoUpdate] at hfirst

end Runs

end Generator
end QuoteBridge
