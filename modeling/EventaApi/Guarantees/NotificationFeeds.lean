import EventaApi.Library.Decimals
import EventaApi.Source.NotificationFeed
import EventaApi.Guarantees.FeedGroups

/-!
# What the feed shows

A load reads four times, each time what is there at that moment, and every source gives its newest
only. What is put together of them is the newest of all the member is entitled to. What is unread
of it depends on the member's own marks alone.
-/
namespace EventaApi.Guarantees
open Library Source

/-! ## The items -/

theorem toList_label (stem : String) (id : Nat) :
    (stem ++ toString id).toList = stem.toList ++ Nat.toDigits 10 id := by
  rw [String.toList_append]
  exact congrArg (stem.toList ++ ·) Nat.toList_repr

/-- What is in front of a row's id, and the id, are read back from the two. -/
theorem label_inj {stem other : String} (plain : stem.toList.all (fun char => !char.isDigit) = true)
    (alike : other.toList.all (fun char => !char.isDigit) = true) {first second : Nat}
    (same : stem ++ toString first = other ++ toString second) : stem = other ∧ first = second := by
  have texts := congrArg (fun text : String => text.toList ++ [':']) same
  simp only [toList_label, List.append_assoc] at texts
  obtain ⟨stems, ids, _⟩ := stem_digits_inj (by simpa using plain) (by simpa using alike)
    (by decide) texts
  exact ⟨String.toList_inj.mp stems, ids⟩

section Items

variable {tables : FeedTables} {organizationId : Nat} {since : Int}

/-- Rows that come to one item each, or to none, come to no item twice. -/
theorem nodup_labels {ρ : Type} [Keyed ρ] {table : Table ρ} {hit : ρ → Prop} [DecidablePred hit]
    {stem : String} (plain : stem.toList.all (fun char => !char.isDigit) = true)
    {items : ρ → List FeedItem} (one : ∀ row, (items row).length ≤ 1)
    (labelled : ∀ row, ∀ item ∈ items row, item.id = stem ++ toString (Keyed.key row)) :
    (((table.select hit).flatMap items).map FeedItem.id).Nodup := by
  have keys : ((table.select hit).map Keyed.key).Nodup :=
    table.distinct.sublist (List.filter_sublist.map _)
  generalize table.select hit = rows at keys ⊢
  induction rows with
  | nil => exact List.nodup_nil
  | cons row rest ih =>
    obtain ⟨fresh, later⟩ := List.nodup_cons.mp keys
    rw [List.flatMap_cons, List.map_append, List.nodup_append]
    refine ⟨?_, ih later, ?_⟩
    · cases made : items row with
      | nil => exact List.nodup_nil
      | cons item more =>
        have alone : more = [] := by simpa [made] using one row
        rw [alone]
        exact List.nodup_singleton _
    · intro label mine other theirs same
      obtain ⟨item, member, rfl⟩ := List.mem_map.mp mine
      obtain ⟨item', member', rfl⟩ := List.mem_map.mp theirs
      obtain ⟨row', stored, there⟩ := List.mem_flatMap.mp member'
      rw [labelled row item member, labelled row' item' there] at same
      have equal := (label_inj plain plain same).2
      exact fresh (equal ▸ List.mem_map_of_mem stored)

theorem registrationItems_ids :
    ((registrationItems tables organizationId since).map FeedItem.id).Nodup := by
  apply nodup_labels (by decide : "order:".toList.all _ = true)
  · intro row
    cases tables.events.find row.eventId <;> simp
  · intro row item member
    obtain ⟨event, _, rfl⟩ := List.mem_map.mp member
    rfl

theorem paymentItems_ids :
    ((paymentItems tables organizationId since).map FeedItem.id).Nodup := by
  apply nodup_labels (by decide : "payment:".toList.all _ = true)
  · intro row
    cases tables.events.find row.eventId <;> simp
  · intro row item member
    obtain ⟨event, _, rfl⟩ := List.mem_map.mp member
    rfl

theorem payoutItems_ids :
    ((payoutItems tables organizationId since).map FeedItem.id).Nodup := by
  unfold payoutItems
  rw [List.filterMap_eq_flatMap_toList]
  apply nodup_labels (by decide : "payout:".toList.all _ = true)
  · intro row
    cases row.completedAt <;> simp
  · intro row item member
    obtain ⟨completedAt, _, rfl⟩ := Option.map_eq_some_iff.mp (Option.mem_toList.mp member)
    rfl

/-- A source's items are named by its own rows. -/
def NamedBy (stem : String) (item : FeedItem) : Prop := ∃ id : Nat, item.id = stem ++ toString id

theorem registrationItems_named : ∀ item ∈ registrationItems tables organizationId since,
    NamedBy "order:" item ∧ item.amountSatang = none := by
  intro item member
  obtain ⟨row, _, joined⟩ := List.mem_flatMap.mp member
  obtain ⟨event, _, rfl⟩ := List.mem_map.mp joined
  exact ⟨⟨row.id, rfl⟩, rfl⟩

theorem paymentItems_named : ∀ item ∈ paymentItems tables organizationId since,
    NamedBy "payment:" item := by
  intro item member
  obtain ⟨row, _, joined⟩ := List.mem_flatMap.mp member
  obtain ⟨event, _, rfl⟩ := List.mem_map.mp joined
  exact ⟨row.id, rfl⟩

theorem payoutItems_named : ∀ item ∈ payoutItems tables organizationId since,
    NamedBy "payout:" item := by
  intro item member
  obtain ⟨row, _, made⟩ := List.mem_filterMap.mp member
  obtain ⟨completedAt, _, rfl⟩ := Option.map_eq_some_iff.mp made
  exact ⟨row.id, rfl⟩

end Items

/-- Items of different sources have different names. -/
theorem named_apart {stem other : String}
    (plain : stem.toList.all (fun char => !char.isDigit) = true)
    (alike : other.toList.all (fun char => !char.isDigit) = true) (differ : stem ≠ other)
    {first second : List FeedItem} (named : ∀ item ∈ first, NamedBy stem item)
    (named' : ∀ item ∈ second, NamedBy other item) :
    ∀ label ∈ first.map FeedItem.id, ∀ label' ∈ second.map FeedItem.id, label ≠ label' := by
  intro label mine label' theirs same
  obtain ⟨item, member, rfl⟩ := List.mem_map.mp mine
  obtain ⟨item', member', rfl⟩ := List.mem_map.mp theirs
  obtain ⟨id, text⟩ := named item member
  obtain ⟨id', text'⟩ := named' item' member'
  rw [text, text'] at same
  exact differ (label_inj plain alike same).1

/-! ## What a load read -/

/-- The states a load read: its clock, what the member holds, the three sources and the mark. -/
structure FeedMoments where
  asked : NotificationDesk
  granting : NotificationDesk
  signUps : NotificationDesk
  money : NotificationDesk
  transfers : NotificationDesk
  marks : NotificationDesk

namespace FeedMoments

/-- Each of them was passed. -/
structure Within (passed : NotificationDesk → Prop) (moments : FeedMoments) : Prop where
  asked : passed moments.asked
  granting : passed moments.granting
  signUps : passed moments.signUps
  money : passed moments.money
  transfers : passed moments.transfers
  marks : passed moments.marks

variable (moments : FeedMoments) (auth : AuthContext)

def since : Int := moments.asked.clock - FEED_WINDOW_DAYS * DAY_MS

/-- The member holds this. -/
def Grants (key : PermissionKey) : Prop :=
  key ∈ moments.granting.granted auth.organizationId auth.userId

instance (key : PermissionKey) : Decidable (moments.Grants auth key) :=
  inferInstanceAs (Decidable (_ ∈ _))

def signUpItems : List FeedItem :=
  if moments.Grants auth .regView then
    registrationItems moments.signUps.tables auth.organizationId moments.since
  else []

def moneyItems : List FeedItem :=
  if moments.Grants auth .finView then
    paymentItems moments.money.tables auth.organizationId moments.since
  else []

def transferItems : List FeedItem :=
  if moments.Grants auth .finView then
    payoutItems moments.transfers.tables auth.organizationId moments.since
  else []

/-- All there is in the window that the member is entitled to. -/
def entitled : List FeedItem :=
  moments.signUpItems auth ++ moments.moneyItems auth ++ moments.transferItems auth

end FeedMoments

/-- The view shows the newest of all the member is entitled to and nothing twice, what is unread is
what came after the member's mark, and no money is shown to whom may not see it. -/
structure ShowsFeed (moments : FeedMoments) (auth : AuthContext) (unreadOnly : Bool)
    (items : List FeedItemView) (view : NotificationFeedView) : Prop where
  newest : IsNewest FeedItem.occurredAt FEED_LIMIT (moments.entitled auth)
    (items.map FeedItemView.toFeedItem)
  once : (items.map fun item => item.id).Nodup
  unread : ∀ item ∈ items, item.unread = true ↔
    ∀ readAt ∈ readAtFor moments.marks auth, (readAt : Int) < item.occurredAt
  counts : view.counts = ⟨items.length, (items.filter (·.unread)).length⟩
  listed : view.groups.flatMap (·.items) = if unreadOnly then items.filter (·.unread) else items
  money : ∀ item ∈ items, item.amountSatang ≠ none → moments.Grants auth .finView
  marked : view.readAt = readAtFor moments.marks auth

section Entitled

variable {moments : FeedMoments} {auth : AuthContext}

theorem entitled_ids : ((moments.entitled auth).map FeedItem.id).Nodup := by
  have signUps : ∀ item ∈ moments.signUpItems auth,
      NamedBy "order:" item ∧ item.amountSatang = none := by
    unfold FeedMoments.signUpItems
    split
    · exact registrationItems_named
    · simp
  have money : ∀ item ∈ moments.moneyItems auth, NamedBy "payment:" item := by
    unfold FeedMoments.moneyItems
    split
    · exact paymentItems_named
    · simp
  have transfers : ∀ item ∈ moments.transferItems auth, NamedBy "payout:" item := by
    unfold FeedMoments.transferItems
    split
    · exact payoutItems_named
    · simp
  unfold FeedMoments.entitled
  rw [List.append_assoc, List.map_append, List.map_append, List.nodup_append, List.nodup_append]
  refine ⟨?_, ⟨?_, ?_, ?_⟩, ?_⟩
  · unfold FeedMoments.signUpItems
    split
    · exact registrationItems_ids
    · exact List.nodup_nil
  · unfold FeedMoments.moneyItems
    split
    · exact paymentItems_ids
    · exact List.nodup_nil
  · unfold FeedMoments.transferItems
    split
    · exact payoutItems_ids
    · exact List.nodup_nil
  · exact named_apart (by decide) (by decide) (by decide) money transfers
  · intro label mine label' theirs
    rcases List.mem_append.mp theirs with theirs | theirs
    · exact named_apart (by decide) (by decide) (by decide) (fun item there => (signUps item there).1)
        money label mine label' theirs
    · exact named_apart (by decide) (by decide) (by decide) (fun item there => (signUps item there).1)
        transfers label mine label' theirs

/-- An item with money on it comes of a source that needs finance access. -/
theorem entitled_money {item : FeedItem} (member : item ∈ moments.entitled auth)
    (money : item.amountSatang ≠ none) : moments.Grants auth .finView := by
  by_contra denied
  unfold FeedMoments.entitled FeedMoments.moneyItems FeedMoments.transferItems at member
  rw [if_neg denied, if_neg denied, List.append_nil, List.append_nil] at member
  unfold FeedMoments.signUpItems at member
  split at member
  · exact money (registrationItems_named item member).2
  · simp at member

end Entitled

/-! ## Loads -/

/-- Each part of a load that was read is what its source gave at its moment. -/
structure ReadFrom (moments : FeedMoments) (load : FeedLoad) : Prop where
  asked : load.now = moments.asked.clock
  granted : load.granted =
    moments.granting.granted load.auth.organizationId load.auth.userId
  signUps : ∀ signUps ∈ load.signUps,
    IsNewest FeedItem.occurredAt FEED_LIMIT (moments.signUpItems load.auth) signUps
  money : ∀ money ∈ load.money,
    IsNewest FeedItem.occurredAt FEED_LIMIT (moments.moneyItems load.auth) money
  transfers : ∀ transfers ∈ load.transfers,
    IsNewest FeedItem.occurredAt FEED_LIMIT (moments.transferItems load.auth) transfers
  readAt : ∀ readAt ∈ load.readAt, readAt = readAtFor moments.marks load.auth

/-- What a port gives is the newest of what it has, or nothing where the reader may not see it. -/
theorem isNewest_entitled {load : FeedLoad} {key : PermissionKey} {order : NewestFirst}
    {items : List FeedItem} {granted : Prop} [Decidable granted]
    (same : granted ↔ key ∈ load.granted) :
    IsNewest FeedItem.occurredAt FEED_LIMIT (if granted then items else [])
      (load.entitled key order items) := by
  unfold FeedLoad.entitled
  by_cases holds : granted
  · rw [if_pos holds, if_pos (List.contains_iff_mem.mpr (same.mp holds))]
    exact isNewest_take (order.same items) (order.descending items)
  · rw [if_neg holds, if_neg (mt List.contains_iff_mem.mp (mt same.mpr holds))]
    exact isNewest_take (List.Perm.refl ([] : List FeedItem)) List.Pairwise.nil

theorem mem_orElse_some {α : Type} {part : Option α} {fresh value : α}
    (read : value ∈ (part <|> some fresh)) : value ∈ part ∨ part = none ∧ value = fresh := by
  cases part with
  | none => exact Or.inr ⟨rfl, (Option.mem_some.mp read).symm⟩
  | some old => exact Or.inl read

/-- A read adds its own moment. -/
theorem ReadFrom.read {passed : NotificationDesk → Prop} {moments : FeedMoments}
    {load : FeedLoad} {desk : NotificationDesk} (within : moments.Within passed)
    (here : passed desk) (sound : ReadFrom moments load) (answer : FeedAnswer) :
    ∃ later : FeedMoments, later.Within passed ∧ ReadFrom later (load.read desk answer) := by
  obtain ⟨port, order⟩ := answer
  have since : load.since = moments.since := by
    unfold FeedLoad.since FeedMoments.since
    rw [sound.asked]
  cases port with
  | registrations =>
    cases there : load.signUps with
    | some old =>
      have again : load.read desk ⟨.registrations, order⟩ = load := by
        cases load
        simp_all [FeedLoad.read]
      exact ⟨moments, within, again.symm ▸ sound⟩
    | none =>
      refine ⟨{ moments with signUps := desk }, { within with signUps := here },
        { sound with signUps := ?_ }⟩
      intro signUps read
      have fresh : signUps = load.entitled .regView order
          (registrationItems desk.tables load.auth.organizationId load.since) := by
        simpa [FeedLoad.read, there, eq_comm] using read
      rw [fresh, since]
      exact isNewest_entitled (sound.granted ▸ Iff.rfl)
  | payments =>
    cases there : load.money with
    | some old =>
      have again : load.read desk ⟨.payments, order⟩ = load := by
        cases load
        simp_all [FeedLoad.read]
      exact ⟨moments, within, again.symm ▸ sound⟩
    | none =>
      refine ⟨{ moments with money := desk }, { within with money := here },
        { sound with money := ?_ }⟩
      intro money read
      have fresh : money = load.entitled .finView order
          (paymentItems desk.tables load.auth.organizationId load.since) := by
        simpa [FeedLoad.read, there, eq_comm] using read
      rw [fresh, since]
      exact isNewest_entitled (sound.granted ▸ Iff.rfl)
  | payouts =>
    cases there : load.transfers with
    | some old =>
      have again : load.read desk ⟨.payouts, order⟩ = load := by
        cases load
        simp_all [FeedLoad.read]
      exact ⟨moments, within, again.symm ▸ sound⟩
    | none =>
      refine ⟨{ moments with transfers := desk }, { within with transfers := here },
        { sound with transfers := ?_ }⟩
      intro transfers read
      have fresh : transfers = load.entitled .finView order
          (payoutItems desk.tables load.auth.organizationId load.since) := by
        simpa [FeedLoad.read, there, eq_comm] using read
      rw [fresh, since]
      exact isNewest_entitled (sound.granted ▸ Iff.rfl)
  | reads =>
    cases there : load.readAt with
    | some old =>
      have again : load.read desk ⟨.reads, order⟩ = load := by
        cases load
        simp_all [FeedLoad.read]
      exact ⟨moments, within, again.symm ▸ sound⟩
    | none =>
      refine ⟨{ moments with marks := desk }, { within with marks := here },
        { sound with readAt := ?_ }⟩
      intro readAt read
      simpa [FeedLoad.read, there, eq_comm] using read

/-! ## Views -/

theorem isUnread_iff {item : FeedItem} {readAt : Option Instant} :
    isUnread item readAt = true ↔ ∀ mark ∈ readAt, (mark : Int) < item.occurredAt := by
  unfold isUnread
  cases readAt <;> simp

theorem map_items (reads : FeedReads) : reads.items.map FeedItemView.toFeedItem =
    (latestFirst FeedItem.occurredAt (reads.signUps ++ reads.money ++ reads.transfers)).take
      FEED_LIMIT := by
  unfold FeedReads.items
  rw [List.map_map]
  exact List.map_id _

/-- The groups of a feed that is in order are the feed again. -/
theorem flatMap_groups {items : List FeedItemView} (now : Int)
    (inOrder : items.Pairwise fun former latter => latter.occurredAt ≤ former.occurredAt) :
    (groupByRecency (fun item : FeedItemView => item.occurredAt) items now).flatMap (·.items) =
      items :=
  (flatMap_groupByRecency items now).trans inOrder.insertionSort_eq

theorem ReadFrom.shows {moments : FeedMoments} {load : FeedLoad} {reads : FeedReads}
    (sound : ReadFrom moments load) (complete : load.complete = some reads) :
    ShowsFeed moments load.auth load.unreadOnly reads.items (reads.view load.unreadOnly load.now) := by
  obtain ⟨signUps, money, transfers, readAt⟩ := reads
  have parts : load.signUps = some signUps ∧ load.money = some money ∧
      load.transfers = some transfers ∧ load.readAt = some readAt := by
    simpa [FeedLoad.complete, Option.bind_eq_some_iff, and_assoc] using complete
  obtain ⟨signUpsRead, moneyRead, transfersRead, readAtRead⟩ := parts
  set reads : FeedReads := ⟨signUps, money, transfers, readAt⟩ with named
  have mark : readAt = readAtFor moments.marks load.auth := sound.readAt readAt readAtRead
  have cut : IsNewest FeedItem.occurredAt FEED_LIMIT (signUps ++ money ++ transfers)
      (reads.items.map FeedItemView.toFeedItem) := by
    rw [map_items]
    exact isNewest_take (List.perm_insertionSort _ _) (latestFirst_inOrder _)
  have newest : IsNewest FeedItem.occurredAt FEED_LIMIT (moments.entitled load.auth)
      (reads.items.map FeedItemView.toFeedItem) := by
    have each : List.Forall₂ (IsNewest FeedItem.occurredAt FEED_LIMIT)
        [moments.signUpItems load.auth, moments.moneyItems load.auth,
          moments.transferItems load.auth] [signUps, money, transfers] :=
      .cons (sound.signUps signUps signUpsRead) (.cons (sound.money money moneyRead)
        (.cons (sound.transfers transfers transfersRead) .nil))
    simpa [FeedMoments.entitled] using IsNewest.flatten each (by simpa using cut)
  have inOrder : reads.items.Pairwise fun former latter =>
      latter.occurredAt ≤ former.occurredAt := List.pairwise_map.mp newest.inOrder
  refine ⟨newest, ?_, ?_, ?_, ?_, ?_, mark⟩
  · have apart := newest.nodup_map entitled_ids
    rwa [List.map_map] at apart
  · intro item member
    unfold FeedReads.items at member
    obtain ⟨bare, _, rfl⟩ := List.mem_map.mp member
    rw [← mark]
    exact isUnread_iff
  · simp only [FeedReads.view]
  · simp only [FeedReads.view]
    split
    · exact flatMap_groups _ (inOrder.sublist List.filter_sublist)
    · exact flatMap_groups _ inOrder
  · intro item member money
    exact entitled_money (newest.subset (List.mem_map_of_mem member)) money

/-! ## Runs -/

/-- What a call knows of the states that were passed. -/
def FeedKnows (passed : NotificationDesk → Prop) : NotificationPhase → Prop
  | .begin _ | .markReadAt _ _ | .crashed => True
  | .getFor _ _ now => ∃ desk, passed desk ∧ now = desk.clock
  | .reading load => ∃ moments : FeedMoments, moments.Within passed ∧ ReadFrom moments load
  | .done request reply => ∀ auth unreadOnly view, request = .load auth unreadOnly →
      reply = .feed view → ∃ (moments : FeedMoments) (items : List FeedItemView),
        moments.Within passed ∧ ShowsFeed moments auth unreadOnly items view

theorem notifications_recollect : notifications.Recollects FeedKnows where
  mono passed more phase wider known := by
    have widen (moments : FeedMoments) (within : moments.Within passed) : moments.Within more :=
      ⟨wider _ within.asked, wider _ within.granting, wider _ within.signUps, wider _ within.money,
        wider _ within.transfers, wider _ within.marks⟩
    cases phase with
    | begin | markReadAt | crashed => trivial
    | getFor auth unreadOnly now =>
      obtain ⟨desk, there, read⟩ := known
      exact ⟨desk, wider desk there, read⟩
    | reading load =>
      obtain ⟨moments, within, sound⟩ := known
      exact ⟨moments, widen moments within, sound⟩
    | done request reply =>
      intro auth unreadOnly view asked answered
      obtain ⟨moments, items, within, shows⟩ := known auth unreadOnly view asked answered
      exact ⟨moments, items, widen moments within, shows⟩
  opened passed request := trivial
  crashed passed := trivial
  act passed desk answer phase here known := by
    cases phase with
    | begin request =>
      cases request with
      | load auth unreadOnly => exact ⟨desk, here, rfl⟩
      | markAllRead auth => trivial
    | getFor auth unreadOnly now =>
      obtain ⟨earlier, there, read⟩ := known
      let moments : FeedMoments := ⟨earlier, desk, desk, desk, desk, desk⟩
      refine ⟨moments, ⟨there, here, here, here, here, here⟩, ⟨read, rfl, ?_, ?_, ?_, ?_⟩⟩ <;>
        exact fun _ absent => by simp at absent
    | reading load =>
      obtain ⟨moments, within, sound⟩ := known
      obtain ⟨later, within, sound⟩ := sound.read within here answer
      show FeedKnows passed (load.read desk answer).settle
      unfold FeedLoad.settle
      cases complete : (load.read desk answer).complete with
      | none => exact ⟨later, within, sound⟩
      | some reads =>
        intro auth unreadOnly view asked answered
        cases asked
        cases answered
        exact ⟨later, reads.items, within, sound.shows complete⟩
    | markReadAt auth readAt =>
      intro _ _ _ asked
      cases asked
    | done request reply => exact known
    | crashed => trivial

/-- Whatever interleaves with a load, what it shows is the newest of all its member is entitled to,
of each source as it was at some moment of the load. -/
theorem feed_shows_newest (start : Pool NotificationDesk NotificationPhase)
    (turns : List (PoolTurn NotificationRequest FeedAnswer NotificationWorld)) :
    ∀ job ∈ (run notifications.serve start turns).jobs, start.jobs.next ≤ job.id →
      ∀ auth unreadOnly view, job.phase = .done (.load auth unreadOnly) (.feed view) →
        ∃ (moments : FeedMoments) (items : List FeedItemView),
          moments.Within (Passed notifications start turns) ∧
            ShowsFeed moments auth unreadOnly items view := by
  intro job stored received auth unreadOnly view answered
  have known := notifications_recollect.run start turns job stored received
  rw [answered] at known
  exact known auth unreadOnly view rfl rfl

/-- Ana may see registrations, and one was made a second before. -/
def anasFeed : Pool NotificationDesk NotificationPhase where
  shared :=
    { tables :=
        { events := Table.empty.insert fun id => { id, status := .upcoming, startAt := 0 }
          orders := Table.empty.insert fun id =>
            { id, organizationId := 1, eventId := 0, buyerName := "Ben", seats := 2
              status := .confirmed, registeredAt := 4000 }
          payments := .empty
          payouts := .empty }
      granted := fun _ _ => [.regView]
      reads := .empty
      clock := 5000 }
  jobs := .empty

def ana : AuthContext := { userId := 1, organizationId := 1, sessionId := 0 }

def latestOrder : NewestFirst where
  arrange := latestFirst FeedItem.occurredAt
  same := List.perm_insertionSort _
  descending := latestFirst_inOrder

/-- One load of a member's, from its request to its answer. -/
def loads (jobId : Nat) : List (PoolTurn NotificationRequest FeedAnswer NotificationWorld) :=
  .receive (.load ana false) :: [FeedPort.reads, .reads, .reads, .payouts, .registrations,
    .payments].map fun port => .advance jobId ⟨port, latestOrder⟩

def bensSeats (unread : Bool) : FeedItemView where
  id := "order:0"
  kind := .registration
  occurredAt := 4000
  eventId := some 0
  eventName := some ""
  personName := some "Ben"
  amountSatang := none
  seats := some 2
  reference := none
  unread

def bensFeed (unread : Bool) (readAt : Option Instant) : NotificationFeedView where
  counts := { all := 1, unread := if unread then 1 else 0 }
  groups := [{ bucket := .today, recent := true, items := [bensSeats unread] }]
  readAt

theorem feed_shows_newest_loads :
    ∃ (moments : FeedMoments) (items : List FeedItemView),
      moments.Within (Passed notifications anasFeed (loads 0)) ∧
        ShowsFeed moments ana false items (bensFeed true none) := by
  have found : (run notifications.serve anasFeed (loads 0)).jobs.find 0 =
      some ⟨0, .done (.load ana false) (.feed (bensFeed true none))⟩ := by decide +kernel
  exact feed_shows_newest anasFeed (loads 0) _ (Table.find_eq_some.mp found).1 (Nat.zero_le _) ana
    false _ rfl

/-! ## Marks -/

/-- The call marks the member's feed read, or is about to. -/
def Marks (auth : AuthContext) : NotificationPhase → Prop
  | .begin (.markAllRead other) | .markReadAt other _ =>
    other.organizationId = auth.organizationId ∧ other.userId = auth.userId
  | _ => False

instance (auth : AuthContext) : DecidablePred (Marks auth)
  | .begin (.markAllRead _) | .markReadAt _ _ => inferInstanceAs (Decidable (_ ∧ _))
  | .begin (.load _ _) | .getFor _ _ _ | .reading _ | .done _ _ | .crashed => isFalse id

section Marks

variable {desk : NotificationDesk} {auth other : AuthContext} {readAt : Instant}

/-- A mark moves the member's watermark to its instant. -/
theorem readAtFor_markReadAt : readAtFor (markReadAt desk auth readAt) auth = some readAt := by
  unfold readAtFor markReadAt
  cases there : desk.reads.select (NotificationRead.IsOf auth) with
  | nil =>
    have mine : NotificationRead.IsOf auth
        ⟨desk.reads.next, auth.organizationId, auth.userId, readAt⟩ := ⟨rfl, rfl⟩
    rw [if_pos rfl, Table.select_insert, there, if_pos mine]
    rfl
  | cons row rest =>
    have first : (desk.reads.select (NotificationRead.IsOf auth)).head? = some row := by
      rw [there, List.head?_cons]
    have mine : NotificationRead.IsOf auth row :=
      (Table.mem_select.mp (there ▸ List.mem_cons_self)).2
    have kept (row : NotificationRead) : NotificationRead.IsOf auth { row with readAt } ↔
        NotificationRead.IsOf auth row := Iff.rfl
    rw [if_neg (List.cons_ne_nil _ _), Table.head?_select_update kept first, if_pos mine]
    rfl

/-- Another member's mark leaves it. -/
theorem readAtFor_markReadAt_of_ne (apart : ¬ Marks auth (.markReadAt other readAt)) :
    readAtFor (markReadAt desk other readAt) auth = readAtFor desk auth := by
  have foreign {id mark : Nat} : ¬ NotificationRead.IsOf auth
      ⟨id, other.organizationId, other.userId, mark⟩ := apart
  unfold readAtFor markReadAt
  split
  · rw [Table.select_insert, if_neg foreign, List.append_nil]
  · rw [Table.select_update_of_miss]
    rintro ⟨id, organizationId, userId, mark⟩ _ ⟨rfl, rfl⟩
    exact ⟨foreign, foreign⟩

end Marks

/-- Where no call marks the member's feed and none is received, the watermark stays. -/
theorem readAtFor_run {auth : AuthContext} {pool : Pool NotificationDesk NotificationPhase}
    (idle : ∀ job ∈ pool.jobs, ¬ Marks auth job.phase)
    {turns : List (PoolTurn NotificationRequest FeedAnswer NotificationWorld)}
    (quiet : ∀ request, .receive request ∈ turns → ¬ Marks auth (.begin request)) :
    readAtFor (run notifications.serve pool turns).shared auth = readAtFor pool.shared auth ∧
      ∀ job ∈ (run notifications.serve pool turns).jobs, ¬ Marks auth job.phase := by
  induction turns generalizing pool with
  | nil => exact ⟨rfl, idle⟩
  | cons turn rest ih =>
    have later : ∀ request, .receive request ∈ rest → ¬ Marks auth (.begin request) :=
      fun request member => quiet request (List.mem_cons_of_mem _ member)
    rw [run_cons]
    cases turn with
    | receive request =>
      refine ih (fun job member => ?_) later
      rcases Table.mem_insert.mp member with old | rfl
      · exact idle job old
      · exact quiet request List.mem_cons_self
    | crash jobId =>
      refine ih (fun job member => ?_) later
      rcases mem_moveJob member with ⟨old, _⟩ | ⟨_, moved⟩
      · exact idle job old
      · rw [moved]
        exact id
    | outside event =>
      have same : readAtFor (pool.shared.outside event) auth = readAtFor pool.shared auth := by
        cases event <;> rfl
      have still : ∀ job ∈ (notifications.serve pool (.outside event)).jobs,
          ¬ Marks auth job.phase := idle
      obtain ⟨kept, still⟩ := ih still later
      exact ⟨kept.trans same, still⟩
    | advance jobId answer =>
      cases found : pool.jobs.find jobId with
      | none =>
        rw [serve_missing found]
        exact ih idle later
      | some job =>
        have mine := idle job (Table.find_eq_some.mp found).1
        have acted : readAtFor (actNotification pool.shared answer job.phase).1 auth =
              readAtFor pool.shared auth ∧
            ¬ Marks auth (actNotification pool.shared answer job.phase).2 := by
          revert mine
          generalize job.phase = phase
          intro mine
          cases phase with
          | begin request =>
            cases request with
            | load => exact ⟨rfl, id⟩
            | markAllRead => exact ⟨rfl, mine⟩
          | getFor | done | crashed => exact ⟨rfl, id⟩
          | reading load =>
            refine ⟨rfl, ?_⟩
            show ¬ Marks auth (load.read pool.shared answer).settle
            unfold FeedLoad.settle
            cases (load.read pool.shared answer).complete <;> exact id
          | markReadAt => exact ⟨readAtFor_markReadAt_of_ne mine, id⟩
        have others : ∀ other ∈ (notifications.serve pool (.advance jobId answer)).jobs,
            ¬ Marks auth other.phase := by
          rw [serve_advance found]
          intro other member
          rcases mem_moveJob member with ⟨old, _⟩ | ⟨_, moved⟩
          · exact idle other old
          · rw [moved]
            exact acted.2
        obtain ⟨kept, still⟩ := ih others later
        refine ⟨kept.trans ?_, still⟩
        rw [serve_advance found]
        exact acted.1

/-- From a member's mark on, while they mark nothing else, what they load shows as unread exactly
what is stamped after it, whatever else happens and whoever else marks. -/
theorem unread_since_mark (auth : AuthContext) (readAt : Instant)
    {pool : Pool NotificationDesk NotificationPhase} {jobId : Nat} {job : Job NotificationPhase}
    (found : pool.jobs.find jobId = some job) (marking : job.phase = .markReadAt auth readAt)
    (alone : ∀ other ∈ pool.jobs, other.id ≠ jobId → ¬ Marks auth other.phase)
    (answer : FeedAnswer)
    (turns : List (PoolTurn NotificationRequest FeedAnswer NotificationWorld))
    (quiet : ∀ request, .receive request ∈ turns → ¬ Marks auth (.begin request)) :
    let marked := notifications.serve pool (.advance jobId answer)
    ∀ job ∈ (run notifications.serve marked turns).jobs, marked.jobs.next ≤ job.id →
      ∀ sessionId unreadOnly view,
        job.phase = .done (.load { auth with sessionId } unreadOnly) (.feed view) →
        view.readAt = some readAt ∧
          ∃ (moments : FeedMoments) (items : List FeedItemView),
            moments.Within (Passed notifications marked turns) ∧
            ShowsFeed moments { auth with sessionId } unreadOnly items view ∧
            ∀ item ∈ items, item.unread = true ↔ (readAt : Int) < item.occurredAt := by
  intro marked job' stored received sessionId unreadOnly view answered
  have landed : readAtFor marked.shared auth = some readAt := by
    show readAtFor (notifications.serve pool (.advance jobId answer)).shared auth = _
    rw [serve_advance found, marking]
    exact readAtFor_markReadAt
  have idle : ∀ other ∈ marked.jobs, ¬ Marks auth other.phase := by
    show ∀ other ∈ (notifications.serve pool (.advance jobId answer)).jobs, _
    rw [serve_advance found, marking]
    intro other member
    rcases mem_moveJob member with ⟨old, apart⟩ | ⟨_, moved⟩
    · exact alone other old apart
    · rw [moved]
      exact id
  have known := notifications_recollect.run marked turns job' stored received
  rw [answered] at known
  obtain ⟨moments, items, within, shows⟩ := known _ unreadOnly view rfl rfl
  have mark : readAtFor moments.marks { auth with sessionId } = some readAt := by
    obtain ⟨first, ⟨later, cut⟩, reached⟩ := within.marks
    rw [← reached, ← landed]
    refine (readAtFor_run idle fun request member => quiet request ?_).1
    rw [← cut]
    exact List.mem_append_left later member
  refine ⟨shows.marked.trans mark, moments, items, within, shows, fun item member => ?_⟩
  rw [shows.unread item member, mark]
  simp

def nextRead : FeedAnswer := ⟨.reads, latestOrder⟩

/-- Ana is about to mark her feed read. -/
def anaMarks : Pool NotificationDesk NotificationPhase :=
  run notifications.serve anasFeed [.receive (.markAllRead ana), .advance 0 nextRead]

theorem unread_since_mark_loads :
    (bensFeed false (some 5000)).readAt = some 5000 ∧
      ∃ (moments : FeedMoments) (items : List FeedItemView),
        moments.Within (Passed notifications
          (notifications.serve anaMarks (.advance 0 nextRead)) (loads 1)) ∧
        ShowsFeed moments ana false items (bensFeed false (some 5000)) ∧
        ∀ item ∈ items, item.unread = true ↔ ((5000 : Nat) : Int) < item.occurredAt := by
  have marking : anaMarks.jobs.find 0 = some ⟨0, .markReadAt ana 5000⟩ := by decide +kernel
  have found : (run notifications.serve (notifications.serve anaMarks (.advance 0 nextRead))
      (loads 1)).jobs.find 1 =
        some ⟨1, .done (.load ana false) (.feed (bensFeed false (some 5000)))⟩ := by decide +kernel
  have alone : ∀ other ∈ anaMarks.jobs.rows, other.id ≠ 0 → ¬ Marks ana other.phase := by
    decide +kernel
  refine unread_since_mark ana 5000 marking rfl alone nextRead (loads 1) ?_ _
    (Table.find_eq_some.mp found).1 (by decide +kernel) 0 false _ rfl
  intro request member
  have only : request = .load ana false := by simpa [loads] using member
  rw [only]
  exact id

end EventaApi.Guarantees
