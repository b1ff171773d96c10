import Mathlib.Data.List.Induction
import WorkerRoster.Proofs.Site.Undisturbed

/-!
# From Rest to Rest

Every errand takes a site with one monitor from rest to rest. So two things hold after errands of
any kind and number. What can be seen of the site is what its `Outline` says, which is told of the
errands alone. And as long as the monitor is in the room, its roster is a mirror of the room, though
the two are kept apart and notices went by unheard while the monitor was away.

## Main statements

- `Site.Shows.errand`: an errand ends, with the site at rest
- `Site.errands_follow_outline`: errands that are done one after the other, seen from outside
- `Site.Runs.roster_mirrors_room`: what the roster and the room have to do with each other
-/

set_option autoImplicit false

namespace WorkerRoster

namespace Scene

variable {v w : Scene} {o : Outline} {P : Scene → Prop}

/-! ## The registration -/

theorem Rests.registration (h : v.Rests) (state : Registration) :
    (v.turn (v.monitor.begin (.registration state))).Leads (v.Becomes (v.outline.heed state)) := by
  cases state with
  | registered => exact h.tryEnter
  | unregistered => exact h.goAway
  | failed => exact h.goAway
  | registering =>
    rw [turn_done rfl]
    exact h.leads_self

theorem leads_telling_nil {state : Registration} (later : v.Leads P) :
    (v.push (.telling [] state)).Leads P :=
  .step (fun _ shows => shows.step_telling_nil) later

/-- A state is told to those who listen: to the monitor, or to nobody. -/
theorem Rests.telling (h : v.Rests) (state : Registration) :
    (v.push (.telling v.connection.audience state)).Leads
      (v.Becomes (if v.monitor.isSubscribed then v.outline.heed state else v.outline)) := by
  unfold Connection.audience
  rw [h.hears, h.subscribed]
  cases v.monitor.subscription with
  | none => exact leads_telling_nil h.leads_self
  | some id =>
    apply Leads.step fun _ shows => shows.step_telling
    apply ((h.push (.telling [] state)).registration state).trans
    intro w becomes
    -- only the empty rest of the targets is left on the stack
    obtain ⟨connection, room, place, monitor, stack⟩ := w
    obtain ⟨rests, name, rfl, outline, fresh⟩ := becomes
    apply leads_telling_nil (v := ⟨connection, room, place, monitor, v.stack⟩)
    apply Leads.here
    exact ⟨⟨rests.watched, rests.subscribed, rests.hears, rests.members, rests.workers,
      rests.stands⟩, name, rfl, outline, fresh⟩

theorem Rests.setState (h : v.Rests) (name : String) (state : Registration) :
    ((v.setConnection (v.connection.setState state)).push
      (.telling v.connection.audience state)).Leads
        (v.Becomes (v.outline.next name (.setState state))) := by
  have houtline : (v.setConnection (v.connection.setState state)).outline =
      { v.outline with isConnected := state = Registration.registered } := by
    cases state <;> rfl
  have hrests : (v.setConnection (v.connection.setState state)).Rests := h.setConnection rfl
  have htold := hrests.telling state
  rw [houtline] at htold
  exact htold.mono fun _ becomes => becomes.of_changed rfl rfl rfl

/-! ## Beginning and ending -/

/-- The scene when the monitor has begun to listen. -/
def listening (v : Scene) (id : ListenerId) : Scene :=
  (v.setConnection (v.connection.listen id (.monitor 0))).setMonitor
    { v.monitor with isSubscribed := true, subscription := some id }

theorem leads_init (deaf : v.monitor.isSubscribed = false)
    (later : ∀ id, ((v.listening id).turn
      ((v.listening id).monitor.resume .probing v.connection.isUp)).Leads P) :
    (v.turn (v.monitor.begin .init)).Leads P := by
  have hbegin : v.monitor.begin .init =
      { monitor := { v.monitor with isSubscribed := true }, pending := some .subscribing } := by
    simp [Monitor.begin, deaf]
  rw [hbegin, turn_asking rfl]
  apply Leads.step_exists fun _ shows => shows.step_subscribing
  intro id
  apply Leads.step fun _ shows => shows.step_replying
  rw [turn_asking (p := .probing) rfl]
  apply Leads.step fun _ shows => shows.step_probing
  exact later id

theorem Rests.listening (h : v.Rests) (deaf : v.monitor.subscription = none) (id : ListenerId) :
    (v.listening id).Rests := by
  constructor
  case watched => exact h.watched
  case subscribed => rfl
  case hears => simp [Scene.listening, Connection.listen, h.hears, deaf]
  case members => exact h.members
  case workers => exact h.workers
  case stands => exact h.stands.of_eq rfl rfl rfl

theorem Rests.init (h : v.Rests) (name : String) :
    (v.turn (v.monitor.begin .init)).Leads (v.Becomes (v.outline.next name .init)) := by
  cases hsubscription : v.monitor.subscription with
  | some id =>
    have hsubscribed : v.monitor.isSubscribed = true := by
      rw [h.subscribed, hsubscription]
      rfl
    have hturn : v.turn (v.monitor.begin .init) = v := by
      simp [Monitor.begin, turn, hsubscribed]
    have houtline : v.outline.next name .init = v.outline := if_pos hsubscribed
    rw [hturn, houtline]
    exact h.leads_self
  | none =>
    have hsubscribed : v.monitor.isSubscribed = false := by
      rw [h.subscribed, hsubscription]
      rfl
    apply leads_init hsubscribed
    intro id
    -- the monitor goes on from rest, as if it had been told that the connection is up
    have hrests := h.listening hsubscription id
    cases hup : v.connection.isUp with
    | true =>
      have houtline : v.outline.next name .init = (v.listening id).outline.attempt := by
        simp [Outline.next, outline, hsubscribed, hup, Scene.listening, Connection.listen]
      rw [houtline]
      exact hrests.tryEnter.mono fun _ becomes => becomes.of_changed rfl rfl rfl
    | false =>
      have houtline : v.outline.next name .init = (v.listening id).outline := by
        simp [Outline.next, outline, hsubscribed, hup, Scene.listening, Connection.listen]
      rw [houtline]
      exact hrests.leads_self.mono fun _ becomes => becomes.of_changed rfl rfl rfl

/-- The scene when the monitor does not listen any more. -/
def dismissed (v : Scene) (id : ListenerId) : Scene :=
  (v.setConnection (v.connection.unlisten id)).setMonitor
    { v.monitor with isSubscribed := false, subscription := none }

theorem Rests.dismissed (h : v.Rests) {id : ListenerId} (hears : v.monitor.subscription = some id) :
    (v.dismissed id).Rests := by
  constructor
  case watched => exact h.watched
  case subscribed => rfl
  case hears => simp [Scene.dismissed, Connection.unlisten, h.hears, hears]
  case members => exact h.members
  case workers => exact h.workers
  case stands => exact h.stands.of_eq rfl rfl rfl

theorem Rests.dispose (h : v.Rests) (name : String) :
    (v.turn (v.monitor.begin .dispose)).Leads (v.Becomes (v.outline.next name .dispose)) := by
  cases hsubscription : v.monitor.subscription with
  | some id =>
    have hbegin : v.monitor.begin .dispose =
        { monitor := { v.monitor with isSubscribed := false, subscription := none },
          pending := some (.unsubscribing id) } := by
      simp [Monitor.begin, hsubscription]
    rw [hbegin, turn_asking rfl]
    apply Leads.step fun _ shows => shows.step_unsubscribing
    apply Leads.step fun _ shows => shows.step_replying
    exact (h.dismissed hsubscription).goAway.mono fun _ becomes => becomes.of_changed rfl rfl rfl
  | none =>
    -- the monitor does not listen, so it is as it would be if it had been told not to
    have hsubscribed : v.monitor.isSubscribed = false := by
      rw [h.subscribed, hsubscription]
      rfl
    have hsame : { v.monitor with isSubscribed := false } = v.monitor := by rw [← hsubscribed]
    have hgone : v.monitor.begin .dispose = { v.monitor with isSubscribed := false }.goAway := by
      simp [Monitor.begin, hsubscription]
    have hbegin : v.monitor.begin .dispose = v.monitor.goAway :=
      hgone.trans (congrArg Monitor.goAway hsame)
    have houtline : v.outline.next name .dispose = v.outline.retire := by
      simp [Outline.next, outline, hsubscribed]
    rw [hbegin, houtline]
    exact h.goAway

/-! ## Members -/

/-- What happens to a member is heard by a monitor that is there, and by no other. -/
theorem Rests.happening (h : v.Rests) {r : Room} {n : Notice} (happens : v.room.Happens r n) :
    ((v.setRoom r).push (.delivering r.audience n)).Leads (v.Becomes v.outline) := by
  have hmembers := happens.distinct h.members
  have hentered : r.isEntered = v.room.isEntered := by rw [happens.rest]
  have hlisteners : r.listeners = v.room.listeners := by rw [happens.rest]
  have hname : r.name = v.room.name := by rw [happens.rest]
  have hentries : r.entries = v.room.entries := by rw [happens.rest]
  have houtline : (v.setRoom r).outline = v.outline := by
    rw [happens.rest]
    rfl
  -- only what the monitor makes of the notice is left to be said
  have hbecomes : ∀ roster : Roster, roster.IsDistinct →
      Stands (v.monitor.knowing roster) r v.place →
      v.Becomes v.outline ((v.setRoom r).setMonitor (v.monitor.knowing roster)) := by
    intro roster workers stands
    have hrests : ((v.setRoom r).setMonitor (v.monitor.knowing roster)).Rests :=
      ⟨h.watched.trans hname.symm, h.subscribed, h.hears, hmembers, workers, stands⟩
    exact ⟨hrests, hname, rfl, houtline, absurd hentries⟩
  cases h.stands with
  | away phase nobody left deaf =>
    have haudience : r.audience = [] := by simp [Room.audience, hentered, left]
    have hstands : Stands v.monitor r v.place :=
      .away phase nobody (hentered.trans left) (hlisteners.trans deaf)
    rw [haudience]
    exact leads_delivering_nil (.here (hbecomes v.monitor.roster h.workers hstands))
  | present seat phase place entered hears mirror =>
    have haudience : r.audience = [.monitor 0 v.monitor.generation] := by
      simp [Room.audience, hentered, entered, hlisteners, hears]
    have hheeds : (v.setRoom r).monitor.heeds v.monitor.generation :=
      (Monitor.heeds_iff _ _).2 ⟨rfl, by simp [phase]⟩
    have hmirror := mirror.heed h.workers h.members happens
    rw [haudience]
    apply leads_delivering hheeds
    apply Leads.here
    apply hbecomes _ (h.workers.heed n)
    exact .present seat phase place (hentered.trans entered) (hlisteners.trans hears) hmirror

theorem Rests.setPlace (h : v.Rests) {room : RoomRef} (same : ∀ r, v.place = some r → r = room) :
    (v.setPlace room).Rests := by
  refine ⟨h.watched, h.subscribed, h.hears, h.members, h.workers, ?_⟩
  cases h.stands with
  | away phase nobody left deaf => exact .away phase nobody left deaf
  | present seat phase place entered hears mirror =>
    exact .present seat phase (congrArg some (same _ place).symm) entered hears mirror

theorem Rests.refusingEntry (h : v.Rests) (refusal : Refusal) :
    (v.setRoom { v.room with nextRefusal := some refusal }).Rests := by
  refine ⟨h.watched, h.subscribed, h.hears, h.members, h.workers, ?_⟩
  cases h.stands with
  | away phase nobody left deaf => exact .away phase nobody left deaf
  | present seat phase place entered hears mirror =>
    exact .present seat phase place entered hears mirror

end Scene

namespace Site

variable {s : Site} {v : Scene} {P : Scene → Prop}

namespace Shows

/-! ## Rooms -/

theorem happen {room : RoomRef} (h : s.Shows v) (place : v.place = some room)
    {f : Room → Room × Notice} (happens : v.room.Happens (f v.room).1 (f v.room).2) :
    (s.happen room f).Shows
      ((v.setRoom (f v.room).1).push (.delivering (f v.room).1.audience (f v.room).2)) := by
  have hroom := getElem?_of_findRoom? (h.place room place)
  rw [h.room] at hroom
  have hname : (f v.room).1.name = v.room.name := by rw [happens.rest]
  have hchanged : (s.changeRoom room fun _ => (f v.room).1).Shows (v.setRoom (f v.room).1) :=
    h.changeRoom place hname
  have haudience := hchanged.roomAudience place
  have hhappen : s.happen room f = (s.changeRoom room fun _ => (f v.room).1).push
      (.delivering (f v.room).1.audience (f v.room).2) := by
    simp only [Site.happen, hroom, notify, haudience, Scene.setRoom_room]
  rw [hhappen]
  exact hchanged.push _

theorem happenOther {name : String} {room : RoomRef} (h : s.Shows v)
    (hroom : s.findRoom? name = some room) (hname : name ≠ v.room.name) {f : Room → Room × Notice}
    (happens : ∀ r : Room, r.Happens (f r).1 (f r).2) :
    ∃ n, (s.happen room f).Shows (v.push (.delivering [] n)) := by
  have hr := getElem?_of_findRoom? hroom
  have hkeeps : (f (s.roomAt name)).1.name = name := by
    rw [(happens _).rest]
    exact s.name_roomAt name
  have haway : (f (s.roomAt name)).1.isEntered = false := by
    rw [(happens _).rest]
    exact h.others name hname
  have hchanged : (s.changeRoom room fun _ => (f (s.roomAt name)).1).Shows v :=
    h.changeOther hroom hname hkeeps haway
  have haudience :
      (s.changeRoom room fun _ => (f (s.roomAt name)).1).roomAudience room = [] := by
    simp [Site.roomAudience, Site.changeRoom, hr, Room.audience, haway]
  have hhappen : s.happen room f = (s.changeRoom room fun _ => (f (s.roomAt name)).1).push
      (.delivering [] (f (s.roomAt name)).2) := by
    simp only [Site.happen, hr, notify, haudience]
  rw [hhappen]
  exact ⟨_, hchanged.push _⟩

/-- Whatever is done in the room of a name is done in the room that is watched, or in another. -/
theorem inRoom (h : s.Shows v) (rests : v.Rests) (name : String) {f : Site → RoomRef → Site}
    (here : ∀ (s' : Site) (room : RoomRef), name = v.room.name → s'.Shows (v.setPlace room) →
      (v.setPlace room).Rests → ∃ u, (f s' room).Shows u ∧ u.Leads P)
    (elsewhere : ∀ (s' : Site) (room : RoomRef), name ≠ v.room.name → s'.Shows v →
      s'.findRoom? name = some room → ∃ u, (f s' room).Shows u ∧ u.Leads P) :
    ∃ u, (s.inRoom name f).Shows u ∧ u.Leads P := by
  by_cases hname : name = v.room.name
  · apply here _ _ hname
    · rw [hname]
      exact h.provideRoom
    · apply rests.setPlace
      intro r hr
      -- a room whose place was known is found there
      have hfound := h.place r hr
      rw [hname]
      simp [Site.provideRoom, hfound]
  · apply elsewhere _ _ hname
    · exact h.provideOther name
    · exact findRoom?_provided s name

theorem member (h : s.Shows v) (rests : v.Rests) (name : String) {f : Room → Room × Notice}
    (happens : ∀ r : Room, r.Happens (f r).1 (f r).2) :
    ∃ u, (s.inRoom name fun s room => s.happen room f).Shows u ∧
      u.Leads (v.Becomes v.outline) := by
  apply h.inRoom rests
  · intro s' room _ shows rests'
    refine ⟨_, shows.happen rfl (happens _), ?_⟩
    exact (rests'.happening (happens _)).mono fun _ becomes => becomes.of_changed rfl rfl rfl
  · intro s' room hname shows hroom
    obtain ⟨n, shows'⟩ := shows.happenOther hroom hname happens
    exact ⟨_, shows', Scene.leads_delivering_nil rests.leads_self⟩

theorem refuseNextEntry (h : s.Shows v) (rests : v.Rests) (name : String) (refusal : Refusal) :
    ∃ u, (s.inRoom name fun s room => s.refuseNextEntry room refusal).Shows u ∧
      u.Leads (v.Becomes (v.outline.next v.room.name (.refuseNextEntry name refusal))) := by
  apply h.inRoom rests
  · intro s' room hname shows rests'
    refine ⟨_, shows.changeRoom rfl rfl, ?_⟩
    apply Scene.Leads.here
    refine ⟨rests'.refusingEntry refusal, rfl, rfl, ?_, absurd rfl⟩
    simp [Outline.next, hname, Scene.outline]
  · intro s' room hname shows hroom
    refine ⟨v, shows.changeOther hroom hname ?_ ?_, ?_⟩
    · exact s'.name_roomAt name
    · exact shows.others name hname
    · apply Scene.Leads.here
      refine ⟨rests, rfl, rfl, ?_, absurd rfl⟩
      simp [Outline.next, hname]

/-! ## Errands -/

theorem begin (h : s.Shows v) (rests : v.Rests) (e : Errand) :
    ∃ u, (s.begin e).Shows u ∧ u.Leads (v.Becomes (v.outline.next v.room.name e)) := by
  cases e with
  | init => exact ⟨_, h.call .init, rests.init _⟩
  | dispose => exact ⟨_, h.call .dispose, rests.dispose _⟩
  | setState state =>
    refine ⟨_, ?_, rests.setState _ state⟩
    rw [← h.connection]
    exact (h.setConnection (s.connection.setState state)).push _
  | refuseNextRequest refusal =>
    refine ⟨v.setConnection { v.connection with nextRefusal := some refusal }, ?_, ?_⟩
    · rw [← h.connection]
      exact h.setConnection _
    · apply Scene.Leads.here
      exact ⟨rests.setConnection rfl, rfl, rfl, rfl, absurd rfl⟩
  | refuseNextEntry name refusal => exact h.refuseNextEntry rests name refusal
  | arrive name id presence =>
    exact h.member rests name fun r => r.happens_arrive id presence
  | update name id presence =>
    exact h.member rests name fun r => r.happens_update id presence
  | depart name id kind =>
    exact h.member rests name fun r => r.happens_depart id kind.property

/-- An errand ends, with the site at rest. -/
theorem errand (h : s.Shows v) (rests : v.Rests) (idle : v.stack = []) (e : Errand) :
    ∃ (s' : Site) (w : Scene), (s.begin e).Settles s' ∧ s'.Shows w ∧
      v.Becomes (v.outline.next v.room.name e) w := by
  obtain ⟨u, shows, leads⟩ := h.begin rests e
  obtain ⟨s', w, works, shows', becomes⟩ := leads _ shows
  exact ⟨s', w, ⟨works, (shows'.stack.trans becomes.stack).trans idle⟩, shows', becomes⟩

end Shows

/-! ## Runs -/

variable {isUp : Bool} {name : String} {es : List Errand}

/-- The site is at rest with a scene, and looks from outside as an outline says. -/
structure Idles (s : Site) (name : String) (o : Outline) (v : Scene) : Prop where
  shows : s.Shows v
  rests : v.Rests
  idle : v.stack = []
  name : v.room.name = name
  outline : v.outline = o

theorem exists_idles_unused (isUp : Bool) (name : String) :
    ∃ v, (unused isUp name).Idles name (Outline.after isUp name []) v := by
  refine ⟨⟨{ isUp }, { name }, none, { room := name }, []⟩, ?_⟩
  constructor
  case shows => exact ⟨rfl, rfl, rfl, nofun, fun _ _ => rfl, rfl⟩
  case rests => exact ⟨rfl, rfl, rfl, List.nodup_nil, List.nodup_nil, .away rfl rfl rfl rfl⟩
  case idle => rfl
  case name => rfl
  case outline => rfl

/-- An errand takes a site from rest to rest. -/
theorem Idles.errand {o : Outline} (h : s.Idles name o v) (e : Errand) :
    ∃ (s' : Site) (w : Scene), (s.begin e).Settles s' ∧ s'.Idles name (o.next name e) w ∧
      (w.room.entries ≠ v.room.entries → w.room.isEntered = true ∧
        w.monitor.roster.workers = w.room.occupants.filterMap Occupant.worker?) := by
  obtain ⟨s', w, settles, shows, becomes⟩ := h.shows.errand h.rests h.idle e
  rw [h.outline, h.name] at becomes
  exact ⟨s', w, settles, ⟨shows, becomes.rests, becomes.stack.trans h.idle,
    becomes.name.trans h.name, becomes.outline⟩, becomes.fresh⟩

theorem Runs.exists_idles (h : Runs isUp name es s) :
    ∃ v, s.Idles name (Outline.after isUp name es) v := by
  induction h with
  | start => exact exists_idles_unused isUp name
  | errand runs e settles ih =>
    obtain ⟨v, idles⟩ := ih
    obtain ⟨s', w, settles', idles', -⟩ := idles.errand e
    rw [Outline.after_concat, settles'.unique settles]
    exact ⟨w, idles'⟩

/-- There is always an end to the errands. -/
theorem exists_runs (isUp : Bool) (name : String) (es : List Errand) :
    ∃ s, Runs isUp name es s := by
  induction es using List.reverseRecOn with
  | nil => exact ⟨_, .start⟩
  | append_singleton es e ih =>
    obtain ⟨s, runs⟩ := ih
    obtain ⟨v, idles⟩ := runs.exists_idles
    obtain ⟨s', w, settles, -⟩ := idles.errand e
    exact ⟨s', .errand runs e settles⟩

/-- A site with one monitor looks from outside as an outline says. -/
structure Agrees (s : Site) (name : String) (o : Outline) : Prop where
  present : o.isJoined → ∃ m seat, s.watchers = [m] ∧ m.phase = .present seat
  away : ¬ o.isJoined → ∃ m, s.watchers = [m] ∧ m.phase = .away
  connected : s.connection.isUp = o.isConnected
  registrationListeners : s.connection.listeners.length = if o.isSubscribed then 1 else 0
  entered : s.isEntered name = o.isJoined
  roomListeners : (s.roomAt name).listeners.length = if o.isJoined then 1 else 0
  requests : s.connection.requests = o.requests
  entries : (s.roomAt name).entries = o.entries
  exits : (s.roomAt name).exits = o.exits
  requestRefusal : s.connection.nextRefusal.isSome = o.refusesRequest
  entryRefusal : (s.roomAt name).nextRefusal.isSome = o.refusesEntry

theorem Shows.watchers (h : s.Shows v) : s.watchers = [v.monitor] := by
  unfold Site.watchers
  rw [h.monitors]
  rfl

theorem Idles.agrees {o : Outline} (h : s.Idles name o v) : s.Agrees name o := by
  obtain ⟨shows, rests, -, rfl, rfl⟩ := h
  have hentered : s.isEntered v.room.name = v.room.isEntered := by
    rw [isEntered_eq_roomAt, shows.room]
  have hlisteners : v.connection.listeners.length = if v.monitor.isSubscribed then 1 else 0 := by
    rw [rests.hears, rests.subscribed]
    cases v.monitor.subscription <;> rfl
  constructor
  case present =>
    intro joined
    cases rests.stands with
    | away phase nobody left => exact absurd joined (by simp [Scene.outline, left])
    | present seat phase => exact ⟨v.monitor, seat, shows.watchers, phase⟩
  case away =>
    intro joined
    cases rests.stands with
    | away phase => exact ⟨v.monitor, shows.watchers, phase⟩
    | present seat phase place entered => exact absurd entered joined
  case connected => rw [shows.connection]; rfl
  case registrationListeners => rw [shows.connection]; exact hlisteners
  case entered => exact hentered
  case roomListeners =>
    rw [shows.room]
    show _ = if v.room.isEntered then 1 else 0
    cases rests.stands with
    | away phase nobody left deaf => rw [deaf, left]; rfl
    | present seat phase place entered hears => rw [hears, entered]; rfl
  case requests => rw [shows.connection]; rfl
  case entries => rw [shows.room]; rfl
  case exits => rw [shows.room]; rfl
  case requestRefusal => rw [shows.connection]; rfl
  case entryRefusal => rw [shows.room]; rfl

/-- Errands that are done one after the other come to an end at just one site, and seen from outside
    it is what the outline says, which knows nothing of calls, listeners and members. -/
theorem errands_follow_outline (isUp : Bool) (name : String) (es : List Errand) :
    ∃ s, (∀ s', Runs isUp name es s' ↔ s' = s) ∧ s.Agrees name (Outline.after isUp name es) := by
  obtain ⟨s, runs⟩ := exists_runs isUp name es
  obtain ⟨v, idles⟩ := runs.exists_idles
  refine ⟨s, fun s' => ⟨fun runs' => runs.unique runs', ?_⟩, idles.agrees⟩
  rintro rfl
  exact runs

/-- Between two errands a monitor that is in the room has a roster that mirrors it. If it entered
    the room on the last errand, the roster knows just the workers among the members, in their
    order. -/
theorem Runs.roster_mirrors_room (h : Runs isUp name es s) :
    ∃ m, s.watchers = [m] ∧
      (∀ seat, m.phase = .present seat → m.roster.Mirrors (s.roomAt name)) ∧
      ∀ e s', (s.begin e).Settles s' → (s.roomAt name).entries < (s'.roomAt name).entries →
        ∃ m' seat, s'.watchers = [m'] ∧ m'.phase = .present seat ∧
          m'.roster.workers = (s'.roomAt name).occupants.filterMap Occupant.worker? := by
  obtain ⟨v, idles⟩ := h.exists_idles
  refine ⟨v.monitor, idles.shows.watchers, ?_, ?_⟩
  · intro seat phase
    cases idles.rests.stands with
    | away away => simp [away] at phase
    | present seat' phase' place entered hears mirror =>
      rw [← idles.name, idles.shows.room]
      exact mirror.mirrors idles.rests.members
  · intro e s' settles entries
    -- the site that the errand led to is the one that it leads to
    obtain ⟨s'', w, settles', idles', fresh⟩ := idles.errand e
    cases settles'.unique settles
    have hbefore : s.roomAt name = v.room := by rw [← idles.name, idles.shows.room]
    have hafter : s'.roomAt name = w.room := by rw [← idles'.name, idles'.shows.room]
    rw [hbefore, hafter] at entries
    obtain ⟨entered, workers⟩ := fresh (Nat.ne_of_gt entries)
    rw [hafter]
    cases idles'.rests.stands with
    | away phase nobody left => exact absurd entered (by simp [left])
    | present seat phase => exact ⟨w.monitor, seat, idles'.shows.watchers, phase, workers⟩

/-- A worker who was there before the registration is known when it comes, and one who is seen
    later is known then. -/
theorem Runs.roster_mirrors_room_registered :
    ∃ s₀ s s' m m' seat,
      Runs false "brewery" [.arrive "brewery" ⟨"w"⟩ (some (.announcing .idle)), .init] s₀ ∧
      (s₀.begin (.setState .registered)).Settles s ∧
      s.watchers = [m] ∧ m.roster.workers = [⟨⟨"w"⟩, .idle⟩] ∧
      Runs false "brewery" [.arrive "brewery" ⟨"w"⟩ (some (.announcing .idle)), .init,
        .setState .registered, .update "brewery" ⟨"v"⟩ (.announcing .busy)] s' ∧
      s'.watchers = [m'] ∧ m'.phase = .present seat ∧ m'.roster.size = 2 ∧
      m'.roster.Mirrors (s'.roomAt "brewery") := by
  have h : Runs false "brewery" _ _ := .start
  replace h := h.errand (.arrive "brewery" ⟨"w"⟩ (some (.announcing .idle)))
    ⟨works_iterate 1 _, rfl⟩
  replace h := h.errand .init ⟨works_iterate 3 _, rfl⟩
  have h' := h.errand (.setState .registered) ⟨works_iterate 12 _, rfl⟩
  replace h' := h'.errand (.update "brewery" ⟨"v"⟩ (.announcing .busy)) ⟨works_iterate 2 _, rfl⟩
  obtain ⟨m₀, -, -, hfresh⟩ := h.roster_mirrors_room
  obtain ⟨m, seat, hm, hphase, hworkers⟩ :=
    hfresh (.setState .registered) _ ⟨works_iterate 12 _, rfl⟩ (by decide)
  obtain ⟨m', hm', hmirrors, -⟩ := h'.roster_mirrors_room
  obtain rfl := (List.cons.inj hm').1
  exact ⟨_, _, _, _, _, _, h, ⟨works_iterate 12 _, rfl⟩, hm, hworkers, h', rfl, rfl, rfl,
    hmirrors _ rfl⟩

end Site

end WorkerRoster
