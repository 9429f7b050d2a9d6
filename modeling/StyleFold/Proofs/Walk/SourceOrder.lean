import StyleFold.Proofs.Walk.Inheritance

/-!
Source order of whole walks. Children are sorted node by node; in a tree whose spans are nested and
whose siblings do not overlap this makes the walk as a whole follow the source. Main statement: of
two calls the earlier is at a node that starts no later, unless the later one is the leaving of a
node around it. So the first calls of nodes come in source order, those of nodes that are only
called when they are left apart.
-/

namespace StyleFold.Walk

variable {State World : Type}

section Layout

/-- Every node has a span, which is inside that of its parent, and siblings neither
start together nor overlap. -/
structure Laid (root : Node) : Prop where
  spanned : ∀ address node, Located root address node → node.span.isSome = true
  nested : ∀ address parent trail child outer inner, Located root address parent →
    Child parent trail child →
    parent.span = some outer → child.span = some inner →
    outer.contains inner.start = true ∧ outer.contains inner.stop = true
  apart : ∀ address parent first second one two a b, Located root address parent →
    Child parent first one → Child parent second two → first ≠ second → one.span = some a →
    two.span = some b →
    a.start ≠ b.start ∧ (a.start < b.start → a.stop ≤ b.start)

def startOf (node : Node) : Int := (node.span.map Span.start).getD 0

def stopOf (node : Node) : Int := (node.span.map Span.stop).getD 0

/-- Both nodes have a span, and the first starts no later. -/
def StartsBy (first second : Node) : Prop :=
  ∃ a b, first.span = some a ∧ second.span = some b ∧ a.start ≤ b.start

variable {root parent child node : Node} {address : Address} {trail : Trail}

theorem located_child (located : Located root address parent) (seated : Child parent trail child) :
    Located root (address ++ [trail]) child := by
  apply located_of_nodeAt
  rw [nodeAt_snoc (nodeAt_of_located located)]
  exact childAt_of_mem (mem_seats.mpr seated)

theorem Laid.startsBy (laid : Laid root) {first second : Node} {here there : Address}
    (one : Located root here first) (two : Located root there second)
    (ordered : startOf first ≤ startOf second) :
    StartsBy first second := by
  obtain ⟨a, starts⟩ := Option.isSome_iff_exists.mp (laid.spanned _ _ one)
  obtain ⟨b, follows⟩ := Option.isSome_iff_exists.mp (laid.spanned _ _ two)
  simp only [startOf, starts, follows, Option.map_some, Option.getD_some] at ordered
  exact ⟨a, b, starts, follows, ordered⟩

theorem Laid.within (laid : Laid root) (located : Located root address parent)
    (seated : Child parent trail child) :
    startOf parent ≤ startOf child ∧ startOf child ≤ stopOf parent ∧
      stopOf child ≤ stopOf parent := by
  obtain ⟨outer, around⟩ := Option.isSome_iff_exists.mp (laid.spanned _ _ located)
  obtain ⟨inner, inside⟩ :=
    Option.isSome_iff_exists.mp (laid.spanned _ _ (located_child located seated))
  have nested := laid.nested _ _ _ _ _ _ located seated around inside
  simp only [Span.contains, decide_eq_true_eq] at nested
  simp only [startOf, stopOf, around, inside, Option.map_some, Option.getD_some]
  omega

theorem Laid.siblings (laid : Laid root) (located : Located root address parent)
    {first second : Trail} {one two : Node} (left : Child parent first one)
    (right : Child parent second two) (differ : first ≠ second)
    (ordered : startOf one ≤ startOf two) : stopOf one ≤ startOf two := by
  obtain ⟨a, starts⟩ := Option.isSome_iff_exists.mp (laid.spanned _ _ (located_child located left))
  obtain ⟨b, follows⟩ :=
    Option.isSome_iff_exists.mp (laid.spanned _ _ (located_child located right))
  obtain ⟨distinct, clear⟩ := laid.apart _ _ _ _ _ _ _ _ located left right differ starts follows
  simp only [startOf, stopOf, starts, follows, Option.map_some, Option.getD_some] at ordered ⊢
  omega

theorem placedSeats_start {found : List Seat}
    (spanned : ∀ seat ∈ found, seat.node.span.isSome = true) (start : Int) :
    ∀ pair ∈ placedSeats start found, pair.1 = startOf pair.2.node := by
  induction found generalizing start with
  | nil => simp [placedSeats]
  | cons seat rest ih =>
      intro pair member
      rcases List.mem_cons.mp member with rfl | later
      · obtain ⟨span, known⟩ := Option.isSome_iff_exists.mp (spanned seat List.mem_cons_self)
        simp [startOf, known]
      · exact ih (fun other inside => spanned other (List.mem_cons_of_mem _ inside)) _ pair later

theorem arranged_ordered {found : List Seat}
    (spanned : ∀ seat ∈ found, seat.node.span.isSome = true) :
    (arranged found).Pairwise fun one two => startOf one.node ≤ startOf two.node := by
  have sorted : ((placedSeats (-1) found).mergeSort fun a b => decide (a.1 ≤ b.1)).Pairwise
      fun a b => decide (a.1 ≤ b.1) = true := List.pairwise_mergeSort place_trans place_total _
  -- No seat is placed by the sibling before it, as each has a span of its own.
  have placed : ∀ pair ∈ (placedSeats (-1) found).mergeSort fun a b => decide (a.1 ≤ b.1),
      pair.1 = startOf pair.2.node := by
    intro pair member
    exact placedSeats_start spanned _ pair (List.mem_mergeSort.mp member)
  rw [arranged, List.pairwise_map]
  refine sorted.imp_of_mem fun one two ordered => ?_
  rw [← placed _ one, ← placed _ two]
  exact of_decide_eq_true ordered

theorem Laid.seatsLeft (laid : Laid root) (located : Located root address parent)
    (ignore : List String) :
    (Walk.seatsLeft parent ignore).Pairwise fun one two =>
      startOf one.node ≤ startOf two.node ∧ stopOf one.node ≤ startOf two.node := by
  have seated (seat : Seat) (member : seat ∈ Walk.seatsLeft parent ignore) :
      Child parent seat.trail seat.node := (mem_seatsLeft.mp member).1
  have ordered : (Walk.seatsLeft parent ignore).Pairwise fun one two =>
      startOf one.node ≤ startOf two.node := by
    apply arranged_ordered
    intro seat member
    exact laid.spanned _ _ (located_child located (mem_seats.mp (List.mem_filter.mp member).1))
  have distinct := List.pairwise_map.mp (nodup_seatsLeft parent ignore)
  refine (ordered.and distinct).imp_of_mem fun {one two} left right both => ⟨both.1, ?_⟩
  exact laid.siblings located (seated one left) (seated two right) both.2 both.1

end Layout

section Agendas

variable {visitor : Visitor State World} {root : Node} {duty : Duty State}
  {rest more : List (Duty State)}
  {past : List (Occasion State World)} {world later : World} {action : Action State}

/-- A call at one position is due after a call at another: the node starts no earlier, or it is
around the other and is left. -/
def DueAfter (address : Address) (node : Node) (stage : Stage) (place : Address) (other : Node) :
    Prop :=
  startOf other ≤ startOf node ∨ (stage = .leave ∧ address <+: place ∧ address ≠ place)

/-- What is still to be visited starts where all before it in the agenda has ended, and no earlier
than what has been called. -/
structure Timely (root : Node) (agenda : List (Duty State)) (past : List (Occasion State World)) :
    Prop where
  orderly : Orderly root agenda
  ahead : agenda.Pairwise fun duty other => other.stage ≠ .leave →
    startOf duty.task.node ≤ startOf other.task.node ∧
      stopOf duty.task.node ≤ startOf other.task.node
  behind : ∀ event ∈ past, ∀ duty ∈ agenda,
    DueAfter duty.task.address duty.task.node duty.stage event.address event.call.node

theorem timely_start (root : Node) (state : State) :
    Timely root [.arrive (rootTask root state)] ([] : List (Occasion State World)) where
  orderly := orderly_start root state
  ahead := List.pairwise_singleton ..
  behind := by simp

/-- A new duty is no later than the one that led to it, as far as the rest is concerned. -/
structure Duty.Within (duty other : Duty State) : Prop where
  starts : startOf duty.task.node ≤ startOf other.task.node
  early : startOf other.task.node ≤ startOf duty.task.node ∨
    startOf other.task.node ≤ stopOf duty.task.node
  stops : stopOf other.task.node ≤ stopOf duty.task.node

theorem within_next (laid : Laid root) (placed : duty.Placed root rest)
    (next : duty.Next action more) :
    ∀ other ∈ more, duty.Within other := by
  have own (other : Duty State) (same : other.task.node = duty.task.node) : duty.Within other := by
    constructor
    · simp [same]
    · simp [same]
    · simp [same]
  intro other member
  cases next with
  | nothing => cases member
  | enter | skip =>
      rw [List.mem_singleton.mp member]
      exact own _ rfl
  | below entering applied collected =>
      rcases List.mem_append.mp member with child | last
      · obtain ⟨seat, seated, rfl⟩ := List.mem_map.mp child
        obtain ⟨starts, early, stops⟩ :=
          laid.within (located_of_nodeAt placed.node) (mem_seatsLeft.mp seated).1
        exact ⟨starts, .inr early, stops⟩
      · rw [List.mem_singleton.mp last]
        exact own _ rfl

theorem not_leaving_of_mem {other : Duty State} (next : duty.Next action more)
    (member : other ∈ more) :
    duty.stage ≠ .leave := by
  cases next with
  | nothing => cases member
  | enter stage | skip stage | below stage => simp [stage]

theorem ahead_next (laid : Laid root) (placed : duty.Placed root rest)
    (next : duty.Next action more) :
    more.Pairwise fun duty other => other.stage ≠ .leave →
      startOf duty.task.node ≤ startOf other.task.node ∧
        stopOf duty.task.node ≤ startOf other.task.node := by
  cases next with
  | nothing => exact .nil
  | enter | skip => exact List.pairwise_singleton ..
  | @below entering state ignore applied found collected =>
      have children := laid.seatsLeft (located_of_nodeAt placed.node) ignore
      rw [Task.below, List.pairwise_append, List.pairwise_map]
      refine ⟨?_, List.pairwise_singleton .., ?_⟩
      · apply children.imp
        intro one two ordered _
        exact ordered
      · intro child _ last member visiting
        rw [List.mem_singleton.mp member] at visiting
        exact absurd rfl visiting

theorem timely_next (laid : Laid root) (timely : Timely root (duty :: rest) past)
    (next : duty.Next action more) :
    Timely root (more ++ rest) (past ++ visitor.heard duty world) := by
  obtain ⟨orderly, ahead, behind⟩ := timely
  obtain ⟨first, later⟩ := List.pairwise_cons.mp ahead
  have placed := orderly.1
  have within := within_next laid placed next
  constructor
  · exact orderly_next orderly next
  · rw [List.pairwise_append]
    refine ⟨ahead_next laid placed next, later, ?_⟩
    intro new added other member visiting
    -- The rest starts after the node of the duty, and what is new is inside that node.
    have bound := first other member visiting
    obtain ⟨starts, early, stops⟩ := within new added
    omega
  · intro event happened other member
    rcases List.mem_append.mp happened with old | fresh
    · rcases List.mem_append.mp member with added | kept
      · -- A node that is left leads to nothing new, so what has been called starts no later than
        -- this one.
        rcases behind event old duty List.mem_cons_self with ordered | ⟨leaving, _⟩
        · exact .inl (Int.le_trans ordered (within other added).starts)
        · exact absurd leaving (not_leaving_of_mem next added)
      · exact behind event old other (List.mem_cons_of_mem _ kept)
    · rw [mem_heard fresh]
      rcases List.mem_append.mp member with added | kept
      · exact .inl (within other added).starts
      · by_cases leaving : other.stage = .leave
        · exact .inr ⟨leaving, orderly.around kept leaving⟩
        · exact .inl (first other kept leaving).1

end Agendas

section Firsts

variable {events : List (Occasion State World)} {event : Occasion State World}

/-- The first call at each position, in the order of the calls. -/
def firstCalls : List (Occasion State World) → List (Occasion State World)
  | [] => []
  | event :: later => event :: (firstCalls later).filter fun other => other.address ≠ event.address

theorem firstCalls_sublist (events : List (Occasion State World)) :
    (firstCalls events).Sublist events := by
  induction events with
  | nil => exact .slnil
  | cons event later ih => exact (List.filter_sublist.trans ih).cons_cons event

theorem mem_firstCalls : event ∈ firstCalls events ↔
    ∃ past later, events = past ++ event :: later ∧
      ∀ earlier ∈ past, earlier.address ≠ event.address := by
  induction events with
  | nil => simp [firstCalls]
  | cons first rest ih =>
      simp only [firstCalls, List.mem_cons, List.mem_filter, ih, decide_eq_true_eq]
      constructor
      · rintro (rfl | ⟨⟨past, later, rfl, fresh⟩, differs⟩)
        · exact ⟨[], rest, rfl, by simp⟩
        · refine ⟨first :: past, later, rfl, ?_⟩
          intro earlier member
          rcases List.mem_cons.mp member with rfl | inside
          · exact fun same => differs same.symm
          · exact fresh earlier inside
      · rintro ⟨past, later, split, fresh⟩
        cases past with
        | nil =>
            cases split
            exact .inl rfl
        | cons head past =>
            cases split
            refine .inr ⟨⟨past, later, rfl, ?_⟩, ?_⟩
            · exact fun earlier inside => fresh earlier (List.mem_cons_of_mem _ inside)
            · exact fun same => fresh first List.mem_cons_self same.symm

end Firsts

section Walks

variable {visitor : Visitor State World} {root : Node} {state : State} {world : World}
  {events : List (Occasion State World)} {ending : EStateM.Result Stop World Unit}

/-- Of two calls, the earlier is at a node that starts no later, or the later one
leaves a node around it. -/
def InOrder (earlier later : Occasion State World) : Prop :=
  StartsBy earlier.call.node later.call.node ∨
    (later.call.stage = .leave ∧ later.address <+: earlier.address ∧
      later.address ≠ earlier.address)

theorem pairwise_of_splits {R : Occasion State World → Occasion State World → Prop}
    (before : ∀ past event later, events = past ++ event :: later → ∀ earlier ∈ past,
      R earlier event) :
    events.Pairwise R := by
  induction events with
  | nil => exact .nil
  | cons first rest ih =>
      rw [List.pairwise_cons]
      constructor
      · intro event member
        obtain ⟨past, later, rfl⟩ := List.append_of_mem member
        exact before (first :: past) event later rfl first List.mem_cons_self
      · apply ih
        rintro past event later rfl earlier member
        exact before (first :: past) event later rfl earlier (List.mem_cons_of_mem _ member)

def Punctual (root : Node) (past : List (Occasion State World)) (event : Occasion State World) :
    Prop :=
  Located root event.address event.call.node ∧ ∀ earlier ∈ past,
    DueAfter event.address event.call.node event.call.stage earlier.address earlier.call.node

theorem recorded_in_order (laid : Laid root)
    (recorded : Recorded visitor root state world events ending) :
    (∀ event ∈ events, Located root event.address event.call.node) ∧ events.Pairwise InOrder := by
  have calls : ∀ duty rest world past, Timely root (duty :: rest) past →
      ∀ event ∈ visitor.heard duty world, Punctual root past event := by
    intro duty rest world past timely event member
    rw [mem_heard member]
    exact ⟨located_of_nodeAt timely.orderly.1.node,
      fun earlier happened => timely.behind earlier happened duty List.mem_cons_self⟩
  have goes : ∀ duty rest world past more after, Timely root (duty :: rest) past →
      visitor.perform duty world = .ok more after →
      Timely root (more ++ rest) (past ++ visitor.heard duty world) := by
    intro duty rest world past more after timely step
    obtain ⟨_, action, _, next⟩ := perform_ok step
    exact timely_next laid timely (next_ok next)
  obtain ⟨good, _⟩ := @Runs.keeps _ _ visitor (fun agenda _ past => Timely root agenda past)
    (Punctual root) (fun _ _ _ => True) calls goes
    (fun _ _ _ _ _ _ _ _ => trivial) _ _ _ _ recorded [] (timely_start root state)
  have located : ∀ event ∈ events, Located root event.address event.call.node := by
    intro event member
    obtain ⟨past, later, split⟩ := List.append_of_mem member
    exact (good past event later split).1
  refine ⟨located, pairwise_of_splits ?_⟩
  rintro past event later rfl earlier member
  rcases (good past event later rfl).2 earlier member with ordered | around
  · exact .inl
      (laid.startsBy (located earlier (by simp [member])) (located event (by simp)) ordered)
  · exact .inr around

theorem unhandled_of_leaving (recorded : Recorded visitor root state world events ending)
    {event : Occasion State World} (member : event ∈ firstCalls events)
    (leaving : event.call.stage = .leave) :
    visitor.handler .wildcard event.call.node = none ∧
    visitor.handler .enter event.call.node = none := by
  obtain ⟨truthful, _⟩ := recorded_informed recorded
  obtain ⟨past, later, split, fresh⟩ := mem_firstCalls.mp member
  have calls := (truthful past event later split).1.calls
  have none (stage : Stage) (early : stage ∈ [Stage.wildcard, .enter]) :
      visitor.handler stage event.call.node = none := by
    by_contra handled
    -- The call of that handler would be due before the leaving, at the same position.
    have due : (event.address, stage) ∈ (callsAbove past event.address).map Occasion.sign := by
      rw [calls, Visitor.dueBefore, leaving]
      refine List.mem_append_right _
        (List.mem_map.mpr ⟨stage, List.mem_filter.mpr ⟨early, ?_⟩, rfl⟩)
      exact Option.isSome_iff_ne_none.mpr handled
    obtain ⟨earlier, present, sign⟩ := List.mem_map.mp due
    exact fresh earlier (mem_callsAbove.mp present).1 (congrArg Prod.fst sign)
  exact ⟨none .wildcard (by simp), none .enter (by simp)⟩

/-- In a tree that is laid out as its source, the first calls of nodes come in source order. Only
the first call of a node without a wildcard and an enter handler, on leaving, comes after those
of the nodes inside it. -/
theorem walk_in_source_order (visitor : Visitor State World) (root : Node)
    (tagged : root.kind.isSome) (laid : Laid root) (state : State) (world : World) :
    ∃ events ending, Told visitor root state world events ending ∧
      (∀ event ∈ events, Located root event.address event.call.node) ∧
      (firstCalls events).Pairwise InOrder ∧
      ((firstCalls events).filter fun event => event.call.stage ≠ .leave).Pairwise
        (fun earlier later => StartsBy earlier.call.node later.call.node) ∧
      ∀ event ∈ firstCalls events, event.call.stage = .leave →
        visitor.handler .wildcard event.call.node = none ∧
        visitor.handler .enter event.call.node = none := by
  obtain ⟨events, ending, told⟩ := walk_told visitor tagged state world
  obtain ⟨located, ordered⟩ := recorded_in_order laid told.recorded
  have firsts := ordered.sublist (firstCalls_sublist events)
  refine ⟨events, ending, told, located, firsts, ?_, ?_⟩
  · refine (firsts.sublist List.filter_sublist).imp_of_mem ?_
    intro earlier later _ member ordered
    rcases ordered with starts | ⟨leaving, _⟩
    · exact starts
    · simp [leaving] at member
  · intro event member leaving
    exact unhandled_of_leaving told.recorded member leaving

end Walks

/-! A module that has its second statement before its first. -/

section Scattered

def statementAt (start stop : Int) : Node where
  kind := some .emptyStatement
  span := some ⟨start, stop⟩
  entries := [(.text "type", .text "EmptyStatement"),
    (.text "span", .map [(.text "start", .int start), (.text "end", .int stop)])]

def scattered : Node where
  kind := some .moduleUnit
  span := some ⟨0, 20⟩
  entries := [(.text "type", .text "Module"),
    (.text "span", .map [(.text "start", .int 0), (.text "end", .int 20)]),
    (.text "last", .map (statementAt 10 12).entries),
    (.text "first", .map (statementAt 3 5).entries)]

theorem seats_statementAt (start stop : Int) : seats (statementAt start stop) = [] := rfl

def lastSeat : Seat := ⟨[⟨2, "last"⟩], statementAt 10 12⟩

def firstSeat : Seat := ⟨[⟨3, "first"⟩], statementAt 3 5⟩

theorem seats_scattered : seats scattered = [lastSeat, firstSeat] := rfl

theorem child_scattered {trail : Trail} {child : Node} (seated : Child scattered trail child) :
    (⟨trail, child⟩ : Seat) = lastSeat ∨ (⟨trail, child⟩ : Seat) = firstSeat := by
  simpa [seats_scattered] using mem_seats.mpr seated

theorem no_child_statementAt {start stop : Int} {trail : Trail} {child : Node}
    (seated : Child (statementAt start stop) trail child) : False := by
  simpa [seats_statementAt] using mem_seats.mpr seated

theorem located_scattered {address : Address} {node : Node}
    (located : Located scattered address node) :
    node = scattered ∨ node = statementAt 10 12 ∨ node = statementAt 3 5 := by
  cases located with
  | here => exact .inl rfl
  | step first rest =>
      rcases child_scattered first with same | same
      · cases same
        cases rest with
        | here => exact .inr (.inl rfl)
        | step deeper => exact (no_child_statementAt deeper).elim
      · cases same
        cases rest with
        | here => exact .inr (.inr rfl)
        | step deeper => exact (no_child_statementAt deeper).elim

theorem laid_scattered : Laid scattered where
  spanned := by
    intro address node located
    rcases located_scattered located with rfl | rfl | rfl <;> rfl
  nested := by
    intro address parent trail child outer inner located seated around inside
    rcases located_scattered located with rfl | rfl | rfl
    · cases around
      rcases child_scattered seated with same | same
      · cases same
        cases inside
        decide
      · cases same
        cases inside
        decide
    · exact (no_child_statementAt seated).elim
    · exact (no_child_statementAt seated).elim
  apart := by
    intro address parent first second one two a b located left right differ starts follows
    rcases located_scattered located with rfl | rfl | rfl
    · rcases child_scattered left with
          same | same <;> rcases child_scattered right with other | other <;>
        cases same <;> cases other <;> cases starts <;> cases follows <;>
          first | decide | exact absurd rfl differ
    · exact (no_child_statementAt left).elim
    · exact (no_child_statementAt left).elim

/-- With a wildcard, the statements of a module are called in source order, whatever
the order of its fields. -/
theorem scattered_in_source_order :
    scattered.kind.isSome = true ∧ Laid scattered ∧
      ∃ events ending, Told (leading .keep) scattered 0 () events ending ∧
        (firstCalls events).Pairwise fun earlier later =>
          StartsBy earlier.call.node later.call.node := by
  obtain ⟨events, ending, told, _, _, ordered, unhandled⟩ :=
    walk_in_source_order (leading .keep) scattered rfl laid_scattered 0 ()
  refine ⟨rfl, laid_scattered, events, ending, told, ?_⟩
  have visiting : (firstCalls events).filter (fun event => event.call.stage ≠ .leave) =
      firstCalls events := by
    rw [List.filter_eq_self]
    intro event member
    by_contra leaving
    have missing := (unhandled event member (by simpa using leaving)).1
    cases missing
  rwa [visiting] at ordered

/-- Only the leaving of nodes is handled. -/
def exiting : Visitor Unit Unit where
  wildcard := none
  enter _ := none
  leave _ := some fun _ _ _ => pure .keep
  cancelled _ := false

section Exits

variable {task : Task Unit} {rest : List (Duty Unit)} {events : List (Occasion Unit Unit)}
  {ending : EStateM.Result Stop Unit Unit}

theorem exiting_visits (valid : WellTagged task.node)
    (onward : Runs exiting (task.below (seatsLeft task.node []) ++ rest) () events ending) :
    Runs exiting (.arrive task :: rest) () events ending := by
  have missing : exiting.handler .enter task.node = none := by
    simp only [Visitor.handler, exiting]
    cases task.node.kind <;> rfl
  have entered : exiting.perform ⟨.enter, task, []⟩ () =
      .ok (task.below (seatsLeft task.node [])) () := by
    have next : (Duty.mk .enter task []).next .keep =
        .ok (task.below (seatsLeft task.node [])) := by
      rw [next_enter (by simp)]
      simp [applyAction, children_eq _ _ valid, bind, Except.bind, pure, Except.pure]
    rw [perform_eq]
    simp only [Visitor.looks, Bool.false_and, Bool.false_eq_true, if_false,
      Visitor.respond, missing]
    exact congrArg (fun outcome => orStop outcome ()) next
  have quiet : exiting.heard ⟨.enter, task, []⟩ () = [] := by
    simp [Visitor.heard, Visitor.looks, missing]
  have arrived : exiting.perform (.arrive task) () = .ok [⟨.enter, task, []⟩] () := rfl
  have visited := Runs.goes entered onward
  rw [quiet, List.nil_append] at visited
  exact .goes arrived visited

theorem exiting_leaves (tagged : task.node.kind.isSome = true)
    (onward : Runs exiting rest () events ending) :
    Runs exiting (.leave task :: rest) () ((Duty.leave task).occasion () :: events) ending := by
  obtain ⟨kind, known⟩ := Option.isSome_iff_exists.mp tagged
  have named : exiting.handler .leave task.node = some fun _ _ _ => pure .keep := by
    simp [Visitor.handler, exiting, known]
  have calm : exiting.cancelled () = false := rfl
  have left : exiting.perform (.leave task) () = .ok [] () := by
    rw [perform_eq, calm, Bool.and_false]
    simp only [Bool.false_eq_true, if_false, Visitor.respond, Duty.leave, named]
    rfl
  have heard : exiting.heard (.leave task) () = [(Duty.leave task).occasion ()] := by
    simp [Visitor.heard, Duty.leave, named, calm]
  have visited := Runs.goes left onward
  rwa [heard] at visited

theorem exiting_statement {start stop : Int} (leaf : task.node = statementAt start stop)
    (onward : Runs exiting rest () events ending) :
    Runs exiting (.arrive task :: rest) () ((Duty.leave task).occasion () :: events) ending := by
  have none : seatsLeft task.node [] = [] := by
    simp [leaf, seatsLeft, seats_statementAt, arranged, placedSeats]
  have valid : WellTagged task.node := by
    rw [leaf]
    rfl
  have tagged : task.node.kind.isSome = true := by
    rw [leaf]
    rfl
  apply exiting_visits valid
  rw [none]
  exact exiting_leaves tagged onward

end Exits

theorem seatsLeft_scattered : seatsLeft scattered [] = [firstSeat, lastSeat] := by
  rw [seatsLeft, seats_scattered]
  simp [blockedField, blocked, lastSeat, firstSeat, arranged, placedSeats,
    statementAt, List.mergeSort, List.MergeSort.Internal.splitInTwo]

def exits : List (Occasion Unit Unit) :=
  [(rootTask scattered ()).child firstSeat, (rootTask scattered ()).child lastSeat,
    rootTask scattered ()].map
    fun task => (Duty.leave task).occasion ()

/-- Left last, a module is called after its statements, though it starts before them. -/
theorem exits_out_of_source_order :
    scattered.kind.isSome = true ∧ Laid scattered ∧
    ∃ events ending, Told exiting scattered () () events ending ∧
      ¬ (firstCalls events).Pairwise fun earlier later =>
        StartsBy earlier.call.node later.call.node := by
  have tagged : scattered.kind.isSome = true := rfl
  have run : Recorded exiting scattered () () exits (.ok () ()) := by
    apply exiting_visits (by rfl : WellTagged scattered)
    rw [show (rootTask scattered ()).node = scattered from rfl, seatsLeft_scattered]
    exact exiting_statement rfl (exiting_statement rfl (exiting_leaves rfl (.done ())))
  obtain ⟨events, ending, told⟩ := walk_told exiting tagged () ()
  -- A walk has one record only.
  obtain ⟨rfl, rfl⟩ := run.unique told.recorded
  refine ⟨tagged, laid_scattered, _, _, told, ?_⟩
  intro ordered
  have last : (Duty.leave (rootTask scattered ())).occasion () ∈ (firstCalls exits).tail := by
    simp [exits, firstCalls, Duty.leave, Duty.occasion, Task.child, rootTask]
  obtain ⟨a, b, starts, follows, early⟩ := (List.pairwise_cons.mp ordered).1 _ last
  cases starts
  cases follows
  revert early
  decide

end Scattered

end StyleFold.Walk
