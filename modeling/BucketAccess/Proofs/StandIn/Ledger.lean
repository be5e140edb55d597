import BucketAccess.Proofs.StandIn.Store
import Mathlib.Data.List.Nodup

/-!
# Keys over a session

Tasks that create and delete keys over one session with the stand-in.  Each task
is one exchange, and what it returns is read off its answer alone, so tasks that
are under way together behave as tasks done in the order in which the stand-in
answers them.  In every order they behave as operations on a ledger of keys: what
is created is there until it is deleted, once.  Broken texts are never sent, so a
task that would have to send one changes nothing.
-/

namespace BucketAccess

open Http (Client)

/-! ## Tasks and events -/

/-- A task for a session. -/
inductive KeyTask where
  | create (request : KeyRequest)
  | deleteById (id : Loose)
  | delete (key : Key)

/-- What became of a task. -/
inductive KeyEvent where
  | created (request : KeyRequest) (outcome : Except Fault (Secret × Key))
  | deleted (id : Loose) (outcome : Except Fault Key)

/-- Does a task over a session. -/
def KeyTask.perform (authorization : Authorization) (client : Client StandIn) :
    KeyTask → KeyEvent × Client StandIn
  | .create request =>
      let (outcome, next) := (authorization.createKey request).run StandIn.reply client
      (.created request outcome, next)
  | .deleteById id =>
      let (outcome, next) := (authorization.deleteKey id).run StandIn.reply client
      (.deleted id outcome, next)
  | .delete key =>
      let (outcome, next) := (authorization.deleteKey key.id).run StandIn.reply client
      (.deleted key.id outcome, next)

/-- Does tasks in the order in which the stand-in answers them. -/
def performAll (authorization : Authorization) :
    List KeyTask → Client StandIn → List KeyEvent × Client StandIn
  | [], client => ([], client)
  | task :: tasks, client =>
      let (event, next) := task.perform authorization client
      let (events, last) := performAll authorization tasks next
      (event :: events, last)

/-- What an event gave, if it created a key. -/
def KeyEvent.issued? : KeyEvent → Option (Secret × Key)
  | .created _ (.ok issued) => some issued
  | _ => none

/-! ## Live keys -/

/-- A key was created and its identifier has not been deleted since. -/
def IsLive (events : List KeyEvent) (key : Key) : Prop :=
  ∃ before request secret after,
    events = before ++ .created request (.ok (secret, key)) :: after ∧
      ∀ outcome, .deleted key.id outcome ∉ after

/-- The keys that are there after an event, by those that were there before. -/
def keepKeys (live : List Key) : KeyEvent → List Key
  | .created _ (.ok (_, key)) => live ++ [key]
  | .created _ (.error _) => live
  | .deleted id _ => live.filter fun key => key.id ≠ id

/-- The keys that are there after events. -/
def liveKeys (events : List KeyEvent) : List Key := events.foldl keepKeys []

theorem isLive_cons_iff {event : KeyEvent} {events : List KeyEvent} {key : Key} :
    IsLive (event :: events) key ↔
      ((∃ request secret, event = .created request (.ok (secret, key))) ∧
        ∀ outcome, .deleted key.id outcome ∉ events) ∨ IsLive events key := by
  constructor
  · rintro ⟨before, request, secret, after, heq, hafter⟩
    cases before with
    | nil =>
        obtain ⟨rfl, rfl⟩ := List.cons.inj heq
        exact .inl ⟨⟨request, secret, rfl⟩, hafter⟩
    | cons first before =>
        obtain ⟨rfl, rfl⟩ := List.cons.inj heq
        exact .inr ⟨before, request, secret, after, rfl, hafter⟩
  · rintro (⟨⟨request, secret, rfl⟩, hafter⟩ | ⟨before, request, secret, after, rfl, hafter⟩)
    · exact ⟨[], request, secret, events, rfl, hafter⟩
    · exact ⟨event :: before, request, secret, after, rfl, hafter⟩

/-- Going through events keeps what was there and is not deleted, and what is
live in the events. -/
theorem mem_foldl_keepKeys_iff {events : List KeyEvent} {live : List Key} {key : Key} :
    key ∈ events.foldl keepKeys live ↔
      (key ∈ live ∧ ∀ outcome, .deleted key.id outcome ∉ events) ∨ IsLive events key := by
  induction events generalizing live with
  | nil => simp [IsLive]
  | cons event events ih =>
      rw [List.foldl_cons, ih, isLive_cons_iff]
      cases event with
      | created request outcome =>
          cases outcome with
          | ok issued =>
              obtain ⟨secret, issuedKey⟩ := issued
              simp only [keepKeys, List.mem_append, List.mem_cons, reduceCtorEq,
                false_or, KeyEvent.created.injEq, Except.ok.injEq, Prod.mk.injEq]
              grind
          | error fault => simp [keepKeys]
      | deleted id outcome =>
          simp only [keepKeys, List.mem_filter, decide_eq_true_eq, List.mem_cons,
            KeyEvent.deleted.injEq, reduceCtorEq]
          grind

theorem mem_liveKeys_iff {events : List KeyEvent} {key : Key} :
    key ∈ liveKeys events ↔ IsLive events key := by
  simp [liveKeys, mem_foldl_keepKeys_iff]

/-- Only keys that were issued are live, each as often as it was issued. -/
theorem foldl_keepKeys_sublist (events : List KeyEvent) (live : List Key) :
    (events.foldl keepKeys live).Sublist
      (live ++ (events.filterMap KeyEvent.issued?).map Prod.snd) := by
  induction events generalizing live with
  | nil => simp
  | cons event events ih =>
      rw [List.foldl_cons]
      refine (ih (keepKeys live event)).trans ?_
      cases event with
      | created request outcome =>
          cases outcome with
          | ok issued => simp [keepKeys, KeyEvent.issued?]
          | error fault => exact List.Sublist.refl _
      | deleted id outcome =>
          exact List.filter_sublist.append_right _

theorem liveKeys_append_singleton (events : List KeyEvent) (event : KeyEvent) :
    liveKeys (events ++ [event]) = keepKeys (liveKeys events) event := by
  simp [liveKeys]

/-! ## The invariant -/

/-- A key answers a request under an authorization. -/
structure Key.Answers (authorization : Authorization) (request : KeyRequest) (key : Key) :
    Prop where
  name : key.name = request.name
  capabilities : key.capabilities = request.capabilities
  bucketId : key.bucketId = request.bucketId
  namePrefix : key.namePrefix = request.namePrefix
  accountId : key.accountId = authorization.accountId

/-- The stand-in has come to its state through events: the keys were issued in
order, and those that are live are in the store, in a form that can be sent. -/
structure Tracks (authorization : Authorization) (past : List KeyEvent) (standIn : StandIn) :
    Prop where
  issued : (past.filterMap KeyEvent.issued?).map (fun issued => (issued.1.value, issued.2.id)) =
    (List.range standIn.created).map fun count =>
      ((StandIn.secretFor (StandIn.keyId count) : Loose), (StandIn.keyId count : Loose))
  answered : ∀ request outcome, .created request outcome ∈ past → request.IsWhole →
    ∃ secret key, outcome = .ok (secret, key) ∧ key.Answers authorization request
  writable : ∀ entry ∈ standIn.keys, entry.2.isWritable = true
  whole : ∀ entry ∈ standIn.keys, entry.2.isWhole = true
  keys : standIn.keys.map (fun entry => ((entry.1 : Loose), Key.kind.decode entry.2)) =
    (liveKeys past).map fun key => (key.id, .ok key)

namespace Tracks

variable {authorization : Authorization} {past : List KeyEvent} {standIn : StandIn}

theorem start (authorization : Authorization) (allowed : Json) :
    Tracks authorization [] (StandIn.start allowed) :=
  ⟨rfl, by simp, by simp [StandIn.start], by simp [StandIn.start], rfl⟩

/-! ### Reading the store -/

theorem live_of_entry (htracks : Tracks authorization past standIn) {entry : String × Json}
    (hentry : entry ∈ standIn.keys) :
    ∃ key, IsLive past key ∧ entry.1 = key.id ∧ Key.kind.decode entry.2 = .ok key := by
  have hmem := List.mem_map_of_mem
    (f := fun entry : String × Json => ((entry.1 : Loose), Key.kind.decode entry.2)) hentry
  rw [htracks.keys] at hmem
  obtain ⟨key, hkey, heq⟩ := List.mem_map.mp hmem
  obtain ⟨hid, hdecode⟩ := Prod.mk.inj heq
  exact ⟨key, mem_liveKeys_iff.mp hkey, hid.symm, hdecode.symm⟩

theorem entry_of_live (htracks : Tracks authorization past standIn) {key : Key}
    (hlive : IsLive past key) :
    ∃ entry ∈ standIn.keys, entry.1 = key.id ∧ Key.kind.decode entry.2 = .ok key := by
  have hmem := List.mem_map_of_mem (f := fun key => (key.id, (.ok key : Except Fault Key)))
    (mem_liveKeys_iff.mpr hlive)
  rw [← htracks.keys] at hmem
  obtain ⟨entry, hentry, heq⟩ := List.mem_map.mp hmem
  obtain ⟨hid, hdecode⟩ := Prod.mk.inj heq
  exact ⟨entry, hentry, hid, hdecode⟩

/-- No identifier and no secret is issued twice. -/
theorem issued_distinct (htracks : Tracks authorization past standIn) :
    (past.filterMap KeyEvent.issued?).Pairwise fun left right =>
      left.1 ≠ right.1 ∧ left.2.id ≠ right.2.id := by
  have hpairs : ((past.filterMap KeyEvent.issued?).map fun issued =>
      (issued.1.value, issued.2.id)).Pairwise fun left right =>
        left.1 ≠ right.1 ∧ left.2 ≠ right.2 := by
    rw [htracks.issued, List.pairwise_map]
    apply List.nodup_range.imp
    intro left right hne
    exact ⟨fun heq => hne (StandIn.keyId_injective (StandIn.secretFor_injective
        (Loose.whole.inj heq))),
      fun heq => hne (StandIn.keyId_injective (Loose.whole.inj heq))⟩
  rw [List.pairwise_map] at hpairs
  apply hpairs.imp
  intro left right hne
  exact ⟨fun heq => hne.1 (congrArg Secret.value heq), hne.2⟩

theorem liveKeys_nodup (htracks : Tracks authorization past standIn) :
    ((liveKeys past).map Key.id).Nodup := by
  have hsublist := foldl_keepKeys_sublist past []
  rw [List.nil_append] at hsublist
  refine List.Nodup.sublist (hsublist.map Key.id) ?_
  rw [List.map_map, List.nodup_iff_pairwise_ne, List.pairwise_map]
  exact htracks.issued_distinct.imp And.right

/-- A live key is the only one of its identifier. -/
theorem live_unique (htracks : Tracks authorization past standIn) {left right : Key}
    (hleft : IsLive past left) (hright : IsLive past right) (hid : left.id = right.id) :
    left = right :=
  List.inj_on_of_nodup_map htracks.liveKeys_nodup (mem_liveKeys_iff.mpr hleft)
    (mem_liveKeys_iff.mpr hright) hid

/-! ### Steps -/

theorem withKey (htracks : Tracks authorization past standIn)
    (hsession : StandIn.IsSession authorization) {request : KeyRequest}
    (hwhole : request.IsWhole) :
    Tracks authorization
      (past ++ [.created request (.ok (⟨StandIn.secretFor (StandIn.keyId standIn.created)⟩,
        StandIn.issue request standIn.created))]) (standIn.withKey request) where
  issued := by
    rw [List.filterMap_append, List.map_append, htracks.issued, StandIn.withKey, List.range_succ,
      List.map_append]
    rfl
  answered := by
    intro asked outcome hmem
    rcases List.mem_append.mp hmem with hpast | hnew
    · exact htracks.answered asked outcome hpast
    · obtain ⟨rfl, rfl⟩ := KeyEvent.created.inj (List.mem_singleton.mp hnew)
      exact fun _ => ⟨_, _, rfl, rfl, rfl, rfl, rfl, hsession.accountId.symm⟩
  writable := by
    intro entry hmem
    rcases List.mem_append.mp hmem with hpast | hnew
    · exact htracks.writable entry hpast
    · obtain rfl := List.mem_singleton.mp hnew
      exact Json.every_obj_iff.mpr (StandIn.isWritable_description request standIn.created)
  whole := by
    intro entry hmem
    rcases List.mem_append.mp hmem with hpast | hnew
    · exact htracks.whole entry hpast
    · obtain rfl := List.mem_singleton.mp hnew
      exact Json.every_obj_iff.mpr (StandIn.isWhole_description hwhole standIn.created)
  keys := by
    rw [liveKeys_append_singleton, StandIn.withKey, List.map_append, htracks.keys, keepKeys,
      List.map_append, List.map_singleton, StandIn.decode_description]
    rfl

/-- A key that is not asked for leaves everything as it is. -/
theorem withheld (htracks : Tracks authorization past standIn) {request : KeyRequest}
    (hbroken : ¬ request.IsWhole) (fault : Fault) :
    Tracks authorization (past ++ [.created request (.error fault)]) standIn where
  issued := by
    have hnone : [KeyEvent.created request (.error fault)].filterMap KeyEvent.issued? = [] := rfl
    rw [List.filterMap_append, hnone, List.append_nil]
    exact htracks.issued
  answered := by
    intro asked outcome hmem
    rcases List.mem_append.mp hmem with hpast | hnew
    · exact htracks.answered asked outcome hpast
    · obtain ⟨rfl, rfl⟩ := KeyEvent.created.inj (List.mem_singleton.mp hnew)
      exact fun hwhole => absurd hwhole hbroken
  writable := htracks.writable
  whole := htracks.whole
  keys := by
    rw [liveKeys_append_singleton]
    exact htracks.keys

/-- A deletion takes the keys of its identifier away. -/
theorem deleted (htracks : Tracks authorization past standIn) {id : Loose}
    (outcome : Except Fault Key) {next : StandIn} (hcreated : next.created = standIn.created)
    (hkeys : next.keys = standIn.keys.filter fun entry => (entry.1 : Loose) ≠ id) :
    Tracks authorization (past ++ [.deleted id outcome]) next where
  issued := by
    have hnone : [KeyEvent.deleted id outcome].filterMap KeyEvent.issued? = [] := rfl
    rw [List.filterMap_append, hnone, List.append_nil, hcreated]
    exact htracks.issued
  answered := by
    intro asked given hmem
    rcases List.mem_append.mp hmem with hpast | hnew
    · exact htracks.answered asked given hpast
    · cases List.mem_singleton.mp hnew
  writable := by
    intro entry hmem
    rw [hkeys] at hmem
    exact htracks.writable entry (List.mem_of_mem_filter hmem)
  whole := by
    intro entry hmem
    rw [hkeys] at hmem
    exact htracks.whole entry (List.mem_of_mem_filter hmem)
  keys := by
    have hfilter := congrArg (List.filter fun pair => pair.1 ≠ id) htracks.keys
    rw [List.filter_map, List.filter_map] at hfilter
    rw [liveKeys_append_singleton, hkeys]
    exact hfilter

theorem withoutKey (htracks : Tracks authorization past standIn) (id : String)
    (outcome : Except Fault Key) :
    Tracks authorization (past ++ [.deleted id outcome]) (standIn.withoutKey id) := by
  refine htracks.deleted outcome rfl ?_
  simp only [StandIn.withoutKey, ne_eq, Loose.whole.injEq]

/-- A deletion that is not asked for takes no key away. -/
theorem undeleted (htracks : Tracks authorization past standIn) {id : Loose}
    (hbroken : id.isWhole = false) (outcome : Except Fault Key) :
    Tracks authorization (past ++ [.deleted id outcome]) standIn := by
  refine htracks.deleted outcome rfl (List.filter_eq_self.mpr ?_).symm
  intro entry _
  cases id with
  | whole id => cases hbroken
  | broken front first rest => simp

/-- Deleting gives the live key of the identifier, and leaves the stand-in alone
if there is none. -/
theorem run_deleteKey {client : Client StandIn} (htracks : Tracks authorization past client.peer)
    (hsession : StandIn.IsSession authorization) (hopen : client.isOpen = true) (id : String) :
    ∃ outcome events, (authorization.deleteKey id).run StandIn.reply client =
        (outcome, ⟨client.peer.withoutKey id, true, events⟩) ∧
      (∀ key, outcome = .ok key ↔ IsLive past key ∧ key.id = id) ∧
      ((∀ key, IsLive past key → key.id ≠ id) →
        outcome = .error (.refused StandIn.noSuchKey) ∧
          client.peer.withoutKey id = client.peer) := by
  cases hfind : client.peer.keys.find? (fun entry => entry.1 = id) with
  | none =>
      obtain ⟨events, hrun⟩ := StandIn.run_deleteKey_of_none hsession hopen hfind
      have habsent : ∀ entry ∈ client.peer.keys, entry.1 ≠ id := by
        simpa using hfind
      have hsame : client.peer.withoutKey id = client.peer := by
        rw [StandIn.withoutKey, List.filter_eq_self.mpr (by simpa using habsent)]
      refine ⟨_, events, by rw [hrun, hsame], ?_, fun _ => ⟨rfl, hsame⟩⟩
      intro key
      constructor
      · intro heq
        cases heq
      · rintro ⟨hlive, hid⟩
        obtain ⟨entry, hentry, hkey, -⟩ := htracks.entry_of_live hlive
        exact absurd (Loose.whole.inj (hkey.trans hid)) (habsent entry hentry)
  | some entry =>
      have hmem := List.mem_of_find?_eq_some hfind
      have hentry : (entry.1 : Loose) = id :=
        congrArg Loose.whole (by simpa using List.find?_some hfind)
      obtain ⟨live, hlive, hid, hdecode⟩ := htracks.live_of_entry hmem
      obtain ⟨events, hrun⟩ := StandIn.run_deleteKey_of_some hsession hopen hfind
        (htracks.writable entry hmem) (htracks.whole entry hmem)
      rw [hdecode] at hrun
      refine ⟨_, events, hrun, fun key => ⟨?_, ?_⟩, ?_⟩
      · intro heq
        obtain rfl := Except.ok.inj heq
        exact ⟨hlive, hid.symm.trans hentry⟩
      · rintro ⟨hkey, hkeyId⟩
        have hsameId : live.id = key.id := calc
          live.id = entry.1 := hid.symm
          _ = id := hentry
          _ = key.id := hkeyId.symm
        rw [htracks.live_unique hlive hkey hsameId]
      · intro hnone
        exact absurd (hid.symm.trans hentry) (hnone live hlive)

/-- One deletion keeps the invariant. -/
theorem perform_delete {client : Client StandIn} (htracks : Tracks authorization past client.peer)
    (hsession : StandIn.IsSession authorization) (hopen : client.isOpen = true) (id : Loose) :
    Tracks authorization
        (past ++ [.deleted id ((authorization.deleteKey id).run StandIn.reply client).1])
        ((authorization.deleteKey id).run StandIn.reply client).2.peer ∧
      ((authorization.deleteKey id).run StandIn.reply client).2.isOpen = true := by
  cases id with
  | whole id =>
      obtain ⟨outcome, events, hrun, -⟩ := htracks.run_deleteKey hsession hopen id
      rw [hrun]
      exact ⟨htracks.withoutKey id outcome, rfl⟩
  | broken front first rest =>
      rw [StandIn.run_deleteKey_of_broken hsession rfl]
      exact ⟨htracks.undeleted rfl _, hopen⟩

/-- One task keeps the invariant. -/
theorem perform {client next : Client StandIn} {task : KeyTask} {event : KeyEvent}
    (htracks : Tracks authorization past client.peer)
    (hsession : StandIn.IsSession authorization) (hopen : client.isOpen = true)
    (hperform : task.perform authorization client = (event, next)) :
    Tracks authorization (past ++ [event]) next.peer ∧ next.isOpen = true := by
  cases task with
  | create request =>
      by_cases hwhole : request.IsWhole
      · obtain ⟨events, hrun⟩ := StandIn.run_createKey hsession hopen hwhole
        rw [KeyTask.perform, hrun] at hperform
        obtain ⟨rfl, rfl⟩ := Prod.mk.inj hperform
        exact ⟨htracks.withKey hsession hwhole, rfl⟩
      · rw [KeyTask.perform, StandIn.run_createKey_of_broken hsession hwhole] at hperform
        obtain ⟨rfl, rfl⟩ := Prod.mk.inj hperform
        exact ⟨htracks.withheld hwhole _, hopen⟩
  | deleteById id =>
      obtain ⟨rfl, rfl⟩ := Prod.mk.inj hperform
      exact htracks.perform_delete hsession hopen id
  | delete key =>
      obtain ⟨rfl, rfl⟩ := Prod.mk.inj hperform
      exact htracks.perform_delete hsession hopen key.id

/-- Tasks done in any order keep the invariant. -/
theorem performAll {client last : Client StandIn} {tasks : List KeyTask}
    {events : List KeyEvent} (htracks : Tracks authorization past client.peer)
    (hsession : StandIn.IsSession authorization) (hopen : client.isOpen = true)
    (hperform : BucketAccess.performAll authorization tasks client = (events, last)) :
    Tracks authorization (past ++ events) last.peer ∧ last.isOpen = true := by
  induction tasks generalizing past client events with
  | nil =>
      obtain ⟨rfl, rfl⟩ := Prod.mk.inj hperform
      rw [List.append_nil]
      exact ⟨htracks, hopen⟩
  | cons task tasks ih =>
      obtain ⟨rfl, rfl⟩ := Prod.mk.inj hperform
      obtain ⟨hnext, hnextOpen⟩ := htracks.perform hsession hopen
        (rfl : task.perform authorization client = _)
      have hrest := ih hnext hnextOpen rfl
      rw [List.append_assoc] at hrest
      exact hrest

end Tracks

/-! ## Every run -/

end BucketAccess
