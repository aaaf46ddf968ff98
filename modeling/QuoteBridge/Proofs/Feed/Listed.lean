import Mathlib.Data.List.Dedup
import QuoteBridge.Proofs.Adapter.Calls
import QuoteBridge.Proofs.Deployment.Growth
import QuoteBridge.Proofs.Feed.Accepted
import QuoteBridge.Proofs.Feed.Waiting
import QuoteBridge.Proofs.SortedMap.Entries

/-!
# The start of a feed

Checking a configuration is nearly all that stands between it and a feed at work.  One that is
accepted is built and started, unless its pools are too large for a batch to be allocated: whoever
asks for such a pool is stopped.  Any other is answered with what the check found.

**Registry.**  At the start the consumer asks for the items of the configuration in the given order
and spelling.  An item that is named again is registered anew, so that the last spelling of each
item is left, under the number of its place.  As no producer run is known yet, each request is
answered with a snapshot at once.

**Input.**  Any configuration, with any list of texts for items; after the start any work in any
order and any settings of the wall clock.

**Results.**
* `Feed.exists_lastSpelled_iff`: which items a list names.
* `Duo.Listed.subscribeAll`: the registry after a list of items was asked for.
* `Duo.Begun.piece`: work before the first message leaves the registry alone.
* `Feed.built_and_started`: all together, from the configuration on.
* `Feed.accepted_not_built`: the check of a configuration lets too large pools pass.
-/

namespace QuoteBridge

section Lists

variable {items : List String} {text last : String} {i j : Item} {k : Nat}

/-- The last text of the list that names the item, with its place. -/
structure Feed.LastSpelled (items : List String) (i : Item) (k : Nat) (text : String) : Prop where
  here : items[k]? = some text
  names : Item.parse text = .ok i
  last : ∀ k' text', items[k']? = some text' → Item.parse text' = .ok i → k' ≤ k

namespace Feed

theorem LastSpelled.mem (h : LastSpelled items i k text) : text ∈ items :=
  List.mem_of_getElem? h.here

/-- A text that names the item is its last one if it stands at the end. -/
theorem lastSpelled_concat_self (hi : Item.parse last = .ok i) :
    LastSpelled (items ++ [last]) i k text ↔ k = items.length ∧ text = last := by
  have hend : (items ++ [last])[items.length]? = some last := List.getElem?_concat_length
  constructor
  · intro h
    have hle : items.length ≤ k := h.last _ _ hend hi
    have hlt : k < (items ++ [last]).length := (List.getElem?_eq_some_iff.mp h.here).1
    rw [List.length_append, List.length_singleton] at hlt
    obtain rfl : k = items.length := by omega
    exact ⟨rfl, Option.some.inj (h.here.symm.trans hend)⟩
  · rintro ⟨rfl, rfl⟩
    refine ⟨hend, hi, fun k' text' hk' _ => ?_⟩
    have hlt : k' < (items ++ [text]).length := (List.getElem?_eq_some_iff.mp hk').1
    rw [List.length_append, List.length_singleton] at hlt
    omega

/-- A text at the end that does not name the item changes nothing for it. -/
theorem lastSpelled_concat_of_ne (hi : Item.parse last ≠ .ok i) :
    LastSpelled (items ++ [last]) i k text ↔ LastSpelled items i k text := by
  have hplace : ∀ {k' : Nat} {text' : String}, Item.parse text' = .ok i →
      ((items ++ [last])[k']? = some text' ↔ items[k']? = some text') := by
    intro k' text' ht
    rw [List.getElem?_append]
    split
    · rfl
    · rename_i hge
      have hnone : items[k']? = none := List.getElem?_eq_none (Nat.not_lt.mp hge)
      rw [hnone]
      constructor
      · intro hlast
        have hmem : text' ∈ [last] := List.mem_of_getElem? hlast
        rw [List.mem_singleton] at hmem
        exact absurd (hmem ▸ ht) hi
      · nofun
  constructor
  · intro h
    exact ⟨(hplace h.names).mp h.here, h.names,
      fun k' text' hk' ht => h.last k' text' ((hplace ht).mpr hk') ht⟩
  · intro h
    exact ⟨(hplace h.names).mpr h.here, h.names,
      fun k' text' hk' ht => h.last k' text' ((hplace ht).mp hk') ht⟩

/-- An item that is named has a last text. -/
theorem exists_lastSpelled_iff :
    (∃ k text, LastSpelled items i k text) ↔ ∃ text ∈ items, Item.parse text = .ok i := by
  constructor
  · rintro ⟨k, text, h⟩
    exact ⟨text, h.mem, h.names⟩
  · induction items using List.reverseRecOn with
    | nil => simp
    | append_singleton items last ih =>
        rintro ⟨text, hmem, ht⟩
        by_cases hi : Item.parse last = .ok i
        · exact ⟨_, _, (lastSpelled_concat_self hi).mpr ⟨rfl, rfl⟩⟩
        · have hbefore : text ∈ items := by
            rcases List.mem_append.mp hmem with hmem | hmem
            · exact hmem
            · rw [List.mem_singleton] at hmem
              exact absurd (hmem ▸ ht) hi
          obtain ⟨k, text', h⟩ := ih ⟨text, hbefore, ht⟩
          exact ⟨k, text', (lastSpelled_concat_of_ne hi).mpr h⟩

end Feed

/-- The items that a list names, in the order of the list. -/
def Feed.namedItems (items : List String) : List Item :=
  items.filterMap (fun text => (Item.parse text).toOption)

theorem Feed.mem_namedItems_iff :
    i ∈ Feed.namedItems items ↔ ∃ text ∈ items, Item.parse text = .ok i := by
  simp only [Feed.namedItems, List.mem_filterMap, Item.toOption_parse_eq_some_iff]

end Lists

/-- The adapter has one subscription for each item that the list names: its id is the place of the
last text that names the item, counted from one, and its handle is this text. -/
structure Adapter.Lists (items : List String) (a : Adapter String) : Prop where
  named : ∀ i, (a.book.subscriptions.get? i).isSome ↔ ∃ text ∈ items, Item.parse text = .ok i
  count : a.subscriptionCount = (Feed.namedItems items).dedup.length
  entry : ∀ i sub, a.book.subscriptions.get? i = some sub →
    ∃ k, Feed.LastSpelled items i k sub.handle ∧ sub.id = UInt64.ofNat (k + 1)

theorem Adapter.Lists.congr {items : List String} {a b : Adapter String} (h : a.Lists items)
    (hs : b.book.subscriptions = a.book.subscriptions) : b.Lists items where
  named := by rw [hs]; exact h.named
  count := by rw [subscriptionCount, hs]; exact h.count
  entry := by rw [hs]; exact h.entry

namespace Duo

variable {c : Config} {e : Epoch} {u : Nat} {names items : List String} {text : String}
  {x y x₀ : Duo}

section Asking

/-- The names were asked for while no producer run was known. -/
structure Listed (names : List String) (x : Duo) : Prop where
  unknown : x.adapter.epoch? = none
  nextId : x.adapter.book.nextId = UInt64.ofNat (names.length + 1)
  entries : ∀ i sub, x.adapter.book.subscriptions.get? i = some sub ↔
    ∃ k text, Feed.LastSpelled names i k text ∧ sub = ⟨UInt64.ofNat (k + 1), text, true⟩
  snapshots : x.scene.deliveries.toList.countP (·.isSnapshot) = names.length
  deltas : x.scene.deliveries.toList.countP (fun d => !d.isSnapshot) = 0

theorem listed_of_create {ac : AdapterConfig} (ha : Adapter.create ac = .ok x.adapter)
    (hj : x.scene.journal = #[]) : x.Listed [] := by
  obtain ⟨a, g, s⟩ := x
  obtain ⟨o, rfl⟩ := Adapter.eq_of_create ha
  have hcalls : s.deliveries = #[] := by
    rw [Scene.deliveries, show s.journal = #[] from hj]
    rfl
  refine ⟨rfl, rfl, fun i sub => ?_, by simp [hcalls], by simp [hcalls]⟩
  constructor
  · nofun
  · rintro ⟨k, text, hlast, -⟩
    cases hlast.mem

/-- One more item is registered, and answered with a snapshot. -/
theorem Listed.subscribe (h : x.Listed names) {i : Item} (hi : Item.parse text = .ok i) :
    (x.act (x.adapter.subscribe text text x.scene).2).Listed (names ++ [text]) := by
  have hcases := Adapter.subscribe_cases text text x.adapter x.scene
  generalize x.adapter.subscribe text text x.scene = r at hcases ⊢
  cases hcases with
  | refused he => cases hi.symm.trans he
  | @done i' id y hi' hr =>
      obtain rfl : i = i' := Except.ok.inj (hi.symm.trans hi')
      have hid : id = UInt64.ofNat (names.length + 1) := hr.issued.trans h.nextId
      have hjournal := hr.journal
      simp only [h.unknown, Option.isSome_none, Bool.false_eq_true, if_false] at hjournal
      have hcalls : y.2.deliveries.toList =
          x.scene.deliveries.toList ++ [Adapter.openingCall x.scene.now i id text] := by
        simp [Scene.deliveries, hjournal]
        rfl
      refine ⟨?_, ?_, fun j sub => ?_, ?_, ?_⟩
      · exact (congrArg Liveness.epoch hr.same.liveness).trans h.unknown
      · show y.1.book.nextId = _
        rw [hr.nextId, hid, List.length_append, List.length_singleton,
          UInt64.ofNat_add (names.length + 1) 1]
        rfl
      · show y.1.book.subscriptions.get? j = some sub ↔ _
        by_cases hj : j = i
        · subst hj
          simp only [hr.entry, h.unknown, Feed.lastSpelled_concat_self hi, hid]
          constructor
          · rintro ⟨rfl⟩
            exact ⟨_, _, ⟨rfl, rfl⟩, rfl⟩
          · rintro ⟨k, t, ⟨rfl, rfl⟩, rfl⟩
            rfl
        · have hne : Item.parse text ≠ .ok j := by
            rw [hi]
            exact fun heq => hj (Except.ok.inj heq).symm
          rw [hr.same.others j hj]
          simp only [Feed.lastSpelled_concat_of_ne hne]
          exact h.entries j sub
      · show y.2.deliveries.toList.countP _ = _
        rw [hcalls, List.countP_append, h.snapshots, List.length_append]
        rfl
      · show y.2.deliveries.toList.countP _ = _
        rw [hcalls, List.countP_append, h.deltas]
        rfl

/-- All items of an accepted list are registered in turn. -/
theorem Listed.subscribeAll (h : x.Listed names) (hi : Config.checkItems items = .ok ()) :
    (subscribeAll items x).Listed (names ++ items) := by
  induction items generalizing names x with
  | nil => rwa [List.append_nil]
  | cons text items ih =>
      obtain ⟨⟨i, hitem⟩, hrest⟩ := Config.checkItems_cons_eq_ok_iff.mp hi
      obtain ⟨id, hok⟩ := Adapter.subscribe_of_parse hitem text x.adapter x.scene
      have hone := ih (h.subscribe hitem) hrest
      rw [List.append_assoc, List.singleton_append] at hone
      rw [Duo.subscribeAll, hok]
      exact hone

theorem Listed.lists (h : x.Listed items) : x.adapter.Lists items := by
  have hnamed : ∀ i, (x.adapter.book.subscriptions.get? i).isSome ↔
      ∃ text ∈ items, Item.parse text = .ok i := by
    intro i
    rw [← Feed.exists_lastSpelled_iff, Option.isSome_iff_exists]
    simp only [h.entries]
    constructor
    · rintro ⟨sub, k, text, hlast, -⟩
      exact ⟨k, text, hlast⟩
    · rintro ⟨k, text, hlast⟩
      exact ⟨_, k, text, hlast, rfl⟩
  refine ⟨hnamed, ?_, fun i sub hsub => ?_⟩
  · have hperm : x.adapter.book.subscriptions.keys.Perm (Feed.namedItems items).dedup := by
      refine (List.perm_ext_iff_of_nodup (SortedMap.nodup_keys _) (List.nodup_dedup _)).mpr ?_
      intro i
      rw [SortedMap.mem_keys_iff, List.mem_dedup, Feed.mem_namedItems_iff, hnamed]
    rw [← hperm.length_eq, SortedMap.keys, List.length_map]
    rfl
  · obtain ⟨k, text, hlast, rfl⟩ := (h.entries i sub).mp hsub
    exact ⟨k, hlast, rfl⟩

end Asking

section Beginning

/-- What was registered and noted is as it was, or a message was heard at the instant `u` or
later. -/
inductive Begun (c : Config) (e : Epoch) (u : Nat) (x₀ x : Duo) : Prop
  | waits {next tick : Nat} (h : x.Awaits c e u next tick)
      (hs : x.adapter.book.subscriptions = x₀.adapter.book.subscriptions)
      (hj : x.scene.journal = x₀.scene.journal)
  | heard {t : Nat} {e' : Epoch} {b : Bool} (hu : u ≤ x.scene.now)
      (h : .heard t e' b ∈ x.scene.journal.toList)

/-- As long as nothing is heard work leaves the subscriptions and the journal alone. -/
theorem Awaits.keeps {next tick : Nat} (h : x.Awaits c e u next tick)
    (hp : x.Piece Feed.generatorName y) (hy : ∀ t e b, .heard t e b ∉ y.scene.journal.toList) :
    y.adapter.book.subscriptions = x.adapter.book.subscriptions ∧
      y.scene.journal = x.scene.journal := by
  cases hp with
  | adapterDials place r hr =>
      obtain ⟨hj, value, hb⟩ := Adapter.superviseFrom_book hr
      refine ⟨?_, hj⟩
      show r.1.book.subscriptions = _
      rw [hb]
      rfl
  | adapterLooks place r hr =>
      rw [h.watchdogs, List.take_nil, List.drop_nil] at hr
      cases hr
  | generatorDials place r hr => exact ⟨rfl, (Generator.superviseFrom_keeps hr).journal⟩
  | heartbeat hs hr => exact ⟨rfl, (Generator.publishHeartbeat_keeps _ x.scene).journal⟩
  | trade ts hr => exact ⟨rfl, (Generator.hear_keeps _ _ x.scene).journal⟩
  | round hr => exact absurd h.rounds hr
  | adapterHears p b hg =>
      simp only [act] at hy ⊢
      generalize hr : Adapter.receive p x.adapter (x.taken b) = r at hy ⊢
      cases hr ▸ Adapter.receive_effect p x.adapter (x.taken b) with
      | ignored m hd => exact ⟨rfl, rfl⟩
      | anew msg m hd he => exact absurd (by simp [taken]) (hy x.scene.now msg.epoch true)
      | known msg m hd he hu =>
          rw [h.unknown] at he
          cases he
      | delivered u sub m hd he hs hid =>
          rw [h.unknown] at he
          cases he
  | adapterLoses b hg => exact absurd hg h.serves.line.not_lost
  | generatorHears p b hg =>
      exact ⟨rfl, (Generator.receive_keeps p x.generator (x.taken b)).journal⟩
  | generatorLoses b hg => exact absurd hg h.serves.line.not_lost

theorem Begun.piece (h : Begun c e u x₀ x) (hc : Steady c) (hp : x.Piece Feed.generatorName y) :
    Begun c e u x₀ y := by
  cases h with
  | waits h hs hj =>
      rcases h.piece hc 0 hp with ⟨next, tick, hy, -⟩ | ⟨next, tick, w, t₀, n, hy⟩
      · obtain ⟨hs', hj'⟩ := h.keeps hp hy.unheard
        exact .waits hy (hs'.trans hs) (hj'.trans hj)
      · obtain ⟨pre, post, htold, -⟩ := hy.told
        have hmem : .heard u e true ∈ y.scene.journal.toList := by simp [htold]
        exact .heard hy.begun hmem
  | heard hu h =>
      have hgrows := hp.grows
      exact .heard (hgrows.now ▸ hu) (hgrows.journal.subset h)

theorem Begun.setClock (h : Begun c e u x₀ x) (items : List String) (seconds : Nat) :
    Begun c e u x₀ (x.call items (.clock seconds)) := by
  cases h with
  | waits h hs hj => exact .waits (h.call items (k := .clock seconds) rfl) hs hj
  | heard hu h => exact .heard hu h

theorem Begun.atTime (h : Begun c e u x₀ x) (hi : x.Idle Feed.generatorName) {t : Nat}
    (ht : x.scene.now ≤ t) (hw : ∀ wake ∈ x.adapter.wakes ++ x.generator.wakes, t ≤ wake) :
    Begun c e u x₀ (x.atTime t) := by
  cases h with
  | waits h hs hj => exact .waits (h.atTime hi ht hw) hs hj
  | heard hu h => exact .heard (Nat.le_trans hu ht) h

end Beginning

end Duo

/-- The call sets the wall clock. -/
def Feed.Call.isClock : Feed.Call → Bool
  | .clock _ => true
  | _ => false

namespace Feed

variable {c : Config} {f₀ f : Feed} {clock : Nat} {cs : List Call}

/-- The adapter has heard no message so far. -/
def Unheard (f : Feed) : Prop := ∀ t e b, .heard t e b ∉ f.deployment.scene.journal.toList

/-- The adapter has the subscriptions that the configuration lists, and the consumer was given a
snapshot for each text of the list and nothing else. -/
structure Subscribed (f : Feed) : Prop where
  lists : ∃ a, f.deployment.adapter = some a ∧ a.Lists f.config.items
  snapshots : f.deployment.snapshots = f.config.items.length
  deltas : f.deployment.deltas = 0

/-- A feed whose subscriptions and journal are still those of the start. -/
theorem subscribed_of_listed {x x₀ : Duo} (h : x₀.Listed c.items)
    (hs : x.adapter.book.subscriptions = x₀.adapter.book.subscriptions)
    (hj : x.scene.journal = x₀.scene.journal) :
    (⟨c, x.deploy generatorName⟩ : Feed).Subscribed := by
  have hcalls : x.scene.deliveries = x₀.scene.deliveries := by
    simp only [Scene.deliveries, hj]
  refine ⟨⟨x.adapter, rfl, h.lists.congr hs⟩, ?_, ?_⟩
  · show x.scene.deliveries.toList.countP _ = _
    rw [hcalls]
    exact h.snapshots
  · show x.scene.deliveries.toList.countP _ = _
    rw [hcalls]
    exact h.deltas

/-- What a started feed is like until the first message. -/
theorem begun_of_start (hb : build clock c = .ok f₀) (hcs : cs.all Call.isClock = true)
    (hr : Run cs f₀.start.2 f) :
    ∃ x₀ x : Duo, x₀.Listed c.items ∧ f = ⟨c, x.deploy generatorName⟩ ∧
      Duo.Begun c (c.generator.epoch.getD 0)
        (Timer.due f₀.deployment.scene.now c.generator.heartbeatInterval) x₀ x := by
  obtain ⟨x, rfl, hv, ha, hg, m, hs⟩ := exists_of_build hb
  obtain ⟨-, -, -, -, -, hitems⟩ := Config.validate_eq_ok_iff.mp hv
  have hnone : x.Listed [] := Duo.listed_of_create ha (congrArg Scene.journal hs)
  have hempty : ((x.startGenerator generatorName).startAdapter).Listed [] :=
    ⟨hnone.unknown, hnone.nextId, hnone.entries, hnone.snapshots, hnone.deltas⟩
  have hlisted : (x.call c.items .start).Listed c.items := hempty.subscribeAll hitems
  obtain ⟨next, tick, hwaits⟩ :=
    (Duo.rests_of_create ha hg hs).start (Config.steady_of_validate hv)
  have hstarted : (⟨c, x.deploy generatorName⟩ : Feed).start.2 =
      ⟨c, (x.call c.items .start).deploy generatorName⟩ := Duo.call_deploy c x .start
  rw [hstarted] at hr
  have hkept : ∃ y : Duo, f = ⟨c, y.deploy generatorName⟩ ∧
      (cs.all Call.isClock = true → Duo.Begun c (c.generator.epoch.getD 0)
        (Timer.due x.scene.now c.generator.heartbeatInterval) (x.call c.items .start) y) := by
    refine hr.induction
      (P := fun cs y => cs.all Call.isClock = true → Duo.Begun c _ _ (x.call c.items .start) y)
      rfl (fun _ => .waits hwaits rfl rfl) ?_ ?_ ?_
    · intro cs y k ih hk
      rw [List.all_append, Bool.and_eq_true] at hk
      cases k with
      | clock seconds => exact (ih hk.1).setClock c.items seconds
      | _ => simp [Call.isClock] at hk
    · intro cs y z ih hp hk
      exact (ih hk).piece (Config.steady_of_validate hv) hp
    · intro cs y t ih hi ht hw hk
      exact (ih hk).atTime hi ht hw
  obtain ⟨y, hf, hy⟩ := hkept
  exact ⟨_, y, hlisted, hf, hy hcs⟩

/-- A configuration that is accepted is built and started, unless its pools are too large: whoever
asks for one of these is stopped.  Any other is answered with its fault.  From the start on nothing
is heard before the first heartbeat is due, and until something is heard each item that the
configuration names has one subscription, under the place and the spelling of its last text, and
the consumer was given one snapshot for each text and nothing else. -/
theorem built_and_started (clock : Nat) (c : Config) :
    ((∃ f₀, build clock c = .ok f₀) ↔ c.validate = .ok () ∧ c.bus.poolSize ≤ Pool.most) ∧
    (∀ e, c.validate = .error e → build clock c = .error (.config e)) ∧
    (c.validate = .ok () → Pool.most < c.bus.poolSize →
      build clock c = .error (.pool .capacityOverflow)) ∧
    ∀ f₀, build clock c = .ok f₀ →
      f₀.start.1 = .ok () ∧
      ∀ cs f, cs.all Call.isClock = true → Run cs f₀.start.2 f →
        (f.deployment.scene.now <
            Timer.due f₀.deployment.scene.now c.generator.heartbeatInterval → f.Unheard) ∧
        (f.Unheard → f.Subscribed) := by
  refine ⟨exists_build_iff, fun e he => by rw [build, he], build_of_most_lt clock,
    fun f₀ hb => ⟨?_, ?_⟩⟩
  · obtain ⟨x, rfl, hv, -⟩ := exists_of_build hb
    exact start_of_validate hv x
  · intro cs f hcs hr
    obtain ⟨x₀, x, hlisted, rfl, hbegun⟩ := begun_of_start hb hcs hr
    cases hbegun with
    | waits h hs hj =>
        exact ⟨fun _ => h.unheard, fun _ => subscribed_of_listed hlisted hs hj⟩
    | heard hu h =>
        exact ⟨fun hlt => absurd hlt (Nat.not_lt.mpr hu), fun hun => absurd h (hun _ _ _)⟩

section Demonstration

/-- Settings of a small feed that lists two items, each of them twice. -/
def listedConfig : Config :=
  ⟨.standard, ⟨400⟩, ⟨50, 1000, some 7, some 1⟩, ["item3", "item05", "item5", "item+003"]⟩

/-- A feed with these settings. -/
def listed : Feed := (build 0 listedConfig).toOption.getD ⟨listedConfig, .create 0 (.create 0)⟩

theorem build_listed : build 0 listedConfig = .ok listed := rfl

theorem listedStarted_run : Run [] listed.start.2 listed.start.2.settle :=
  .settle build_listed (.called .start (.refl listed)) (.refl listed.start.2)

/-- The feed has its subscriptions when it has connected, and another list is refused. -/
theorem built_and_started_demo :
    listedConfig.validate = .ok () ∧ listed.start.1 = .ok () ∧
      listed.start.2.settle.Unheard ∧ listed.start.2.settle.Subscribed ∧
      build 0 { listedConfig with items := ["item3", "item31"] } =
        .error (.config (.invalidValue "items" "item31")) := by
  obtain ⟨hbuilt, -, -, hstarted⟩ := built_and_started 0 listedConfig
  obtain ⟨-, hrefused, -⟩ := built_and_started 0 { listedConfig with items := ["item3", "item31"] }
  obtain ⟨hok, hruns⟩ := hstarted listed build_listed
  obtain ⟨hearly, hlists⟩ := hruns [] _ rfl listedStarted_run
  have hunheard := hearly (by decide +kernel)
  exact ⟨(hbuilt.mp ⟨listed, build_listed⟩).1, hok, hunheard, hlists hunheard, hrefused _ rfl⟩

example : (listed.start.2.deployment.adapter.map (fun a =>
    a.book.subscriptions.entries.map (fun e => (e.1.id, e.2.id, e.2.handle)))) =
      some [(3, 4, "item+003"), (5, 3, "item5")] := by
  decide +kernel

/-- The settings of a small feed, but with 10¹⁸ bodies in a batch. -/
def vastConfig : Config :=
  { listedConfig with bus := { listedConfig.bus with poolSize := 1000000000000000000 } }

/-- Not every configuration that is accepted can be built. -/
theorem accepted_not_built :
    vastConfig.validate = .ok () ∧
      ¬ ∀ c : Config, (∃ f₀, build 0 c = .ok f₀) ↔ c.validate = .ok () := by
  have hv : vastConfig.validate = .ok () := rfl
  refine ⟨hv, fun heach => ?_⟩
  obtain ⟨-, hle⟩ := exists_build_iff.mp ((heach vastConfig).mpr hv)
  exact absurd hle (by decide)

end Demonstration

end Feed

end QuoteBridge
