import Aorta.Redis.MemoryServer
import Aorta.Tasks.TaskManager

/-!
# The task store as a map

What the task store is for: a map from ids to titles and completion flags, with a
fresh id for each created task. `Represents` relates it to the three families of
keys in Redis, and every job does to the map what it is meant to do.
-/

namespace Aorta.Tasks

open Aorta.Library.Ascii Aorta.Library.Decimal Aorta.Redis

set_option autoImplicit false

/-- All ids ever issued, and the tasks that exist. -/
structure Store where
  issued : List Nat := []
  tasks : Nat → Option (Bytes × Bool) := fun _ => none

namespace Store

/-- A list of tasks as the map has them, each once, by increasing id. -/
def Lists (store : Store) (tasks : List Task) : Prop :=
  (∀ task, task ∈ tasks ↔ store.tasks task.id = some (task.title, task.completed)) ∧
    tasks.Pairwise fun first second => first.id < second.id

/-- What a failed job tells its callback. -/
def failure : Operation → Outcome
  | .getAll => .listed false []
  | .create _ => .created false {}
  | .update _ _ _ => .updated false {}
  | .remove _ => .removed false false

/-- What a job does to the map. A call fails if it does not reach Redis; a call
that does can only fail for want of ids. -/
inductive Performs (store : Store) : Bool → Operation → Outcome → Store → Prop
  | rejected (reached : Bool) : Performs store reached (.create []) .rejected store
  | unreached (operation : Operation) (titled : operation ≠ .create []) :
      Performs store false operation (failure operation) store
  | created (title : Bytes) (id : Nat) (titled : title ≠ [])
      (fresh : ∀ old ∈ store.issued, old < id) :
      Performs store true (.create title) (.created true ⟨id, title, false⟩)
        { issued := id :: store.issued
          tasks := Function.update store.tasks id (some (title, false)) }
  | exhausted (title : Bytes) (titled : title ≠ []) (last : 2 ^ 63 - 1 ∈ store.issued) :
      Performs store true (.create title) (.created false {}) store
  | updated (id : Nat) (title : Bytes) (completed : Bool) (oldTitle newTitle : Bytes)
      (wasCompleted : Bool) (present : store.tasks id = some (oldTitle, wasCompleted))
      (replaced : newTitle = if title = [] then oldTitle else title) :
      Performs store true (.update id title completed) (.updated true ⟨id, newTitle, completed⟩)
        { store with tasks := Function.update store.tasks id (some (newTitle, completed)) }
  | notUpdated (id : Nat) (title : Bytes) (completed : Bool)
      (absent : store.tasks id = none) :
      Performs store true (.update id title completed) (.updated false {}) store
  | removed (id : Nat) (present : (store.tasks id).isSome) :
      Performs store true (.remove id) (.removed true true)
        { store with tasks := Function.update store.tasks id none }
  | notRemoved (id : Nat) (absent : store.tasks id = none) :
      Performs store true (.remove id) (.removed true false) store
  | listed (tasks : List Task) (lists : store.Lists tasks) :
      Performs store true .getAll (.listed true tasks) store

inductive Run : Store → List (Bool × Operation) → List Outcome → Store → Prop
  | nil (store : Store) : Run store [] [] store
  | cons {store middle final : Store} {reached : Bool} {operation : Operation}
      {outcome : Outcome} {operations : List (Bool × Operation)} {outcomes : List Outcome}
      (first : Performs store reached operation outcome middle)
      (rest : Run middle operations outcomes final) :
      Run store ((reached, operation) :: operations) (outcome :: outcomes) final

end Store

/-! ### The keys -/

theorem task_key_injective : Function.Injective taskKey := by
  intro first second same
  exact decimal_injective (List.append_cancel_left same)

theorem task_key_ne_next_id (id : Nat) : taskKey id ≠ nextIdKey := by
  intro same
  have rest : decimal id = ascii "next_id" :=
    List.append_cancel_left (show ascii "task:" ++ decimal id = ascii "task:" ++ ascii "next_id"
      from same)
  have digit := decimal_digits id 110 (by rw [rest]; decide)
  revert digit
  decide

theorem task_key_ne_task_set (id : Nat) : taskKey id ≠ taskSetKey := by
  intro same
  have fourth := congrArg (fun key : Bytes => key[4]?) same
  revert fourth
  simp [taskKey, taskSetKey, ascii]

theorem next_id_ne_task_set : nextIdKey ≠ taskSetKey := by decide

def completedText (completed : Bool) : Bytes := if completed then ascii "1" else ascii "0"

def taskFields (title : Bytes) (completed : Bool) : Bytes → Option Bytes :=
  setFields (fun _ => none)
    [(ascii "title", title), (ascii "completed", completedText completed)]

theorem task_fields_title (title : Bytes) (completed : Bool) :
    taskFields title completed (ascii "title") = some title := by
  have differs : ascii "title" ≠ ascii "completed" := by decide
  simp [taskFields, setFields, Function.update_of_ne differs]

theorem task_fields_completed (title : Bytes) (completed : Bool) :
    taskFields title completed (ascii "completed") = some (completedText completed) := by
  simp [taskFields, setFields]

theorem set_task_fields (title newTitle : Bytes) (completed newCompleted : Bool) :
    setFields (taskFields title completed)
      [(ascii "title", newTitle), (ascii "completed", completedText newCompleted)] =
      taskFields newTitle newCompleted := by
  have differs : ascii "title" ≠ ascii "completed" := by decide
  simp only [taskFields, setFields, List.foldl_cons, List.foldl_nil]
  rw [Function.update_comm differs, Function.update_idem, Function.update_comm differs.symm,
    Function.update_idem]

/-- The members of the set are the ids of the tasks. -/
def Enumerates (members : Finset Bytes) (tasks : Nat → Option (Bytes × Bool)) : Prop :=
  ∀ member, member ∈ members ↔ ∃ id, member = decimal id ∧ (tasks id).isSome

section Enumerates

variable {members : Finset Bytes} {tasks : Nat → Option (Bytes × Bool)}

theorem Enumerates.insert (enumerates : Enumerates members tasks) (id : Nat)
    (task : Bytes × Bool) :
    Enumerates (insert (decimal id) members) (Function.update tasks id (some task)) := by
  intro member
  rw [Finset.mem_insert, enumerates]
  constructor
  · intro found
    rcases found with rfl | ⟨other, rfl, present⟩
    · exact ⟨id, rfl, by simp⟩
    · refine ⟨other, rfl, ?_⟩
      by_cases same : other = id
      · simp [same]
      · rwa [Function.update_of_ne same]
  · intro found
    obtain ⟨other, rfl, present⟩ := found
    by_cases same : other = id
    · exact .inl (by rw [same])
    · rw [Function.update_of_ne same] at present
      exact .inr ⟨other, rfl, present⟩

theorem Enumerates.erase (enumerates : Enumerates members tasks) (id : Nat) :
    Enumerates (members.erase (decimal id)) (Function.update tasks id none) := by
  intro member
  rw [Finset.mem_erase, enumerates]
  constructor
  · intro found
    obtain ⟨differs, other, rfl, present⟩ := found
    refine ⟨other, rfl, ?_⟩
    rwa [Function.update_of_ne fun same => differs (by rw [same])]
  · intro found
    obtain ⟨other, rfl, present⟩ := found
    by_cases same : other = id
    · simp [same] at present
    · rw [Function.update_of_ne same] at present
      exact ⟨fun equal => same (decimal_injective equal), other, rfl, present⟩

theorem Enumerates.replace (enumerates : Enumerates members tasks) {id : Nat}
    (present : (tasks id).isSome) (task : Bytes × Bool) :
    Enumerates members (Function.update tasks id (some task)) := by
  have inserted := enumerates.insert id task
  rwa [Finset.insert_eq_self.mpr ((enumerates _).mpr ⟨id, rfl, present⟩)] at inserted

end Enumerates

/-- The counter holds the last id issued. -/
def Counts (value : Option Value) (issued : List Nat) : Prop :=
  ∃ last, counter value last ∧ last < 2 ^ 63 ∧ (∀ id ∈ issued, id ≤ last) ∧
    (last = 0 ∨ last ∈ issued)

/-- The keys in Redis stand for the map. -/
structure Represents (keys : Bytes → Option Value) (store : Store) : Prop where
  counts : Counts (keys nextIdKey) store.issued
  hashes : ∀ id, keys (taskKey id) =
    (store.tasks id).map fun task => .hash (taskFields task.1 task.2)
  members : ∃ members, setOf (keys taskSetKey) members ∧ Enumerates members store.tasks
  known : ∀ id, (store.tasks id).isSome → id ∈ store.issued
  titled : ∀ id title completed, store.tasks id = some (title, completed) → title ≠ []

theorem empty_represents : Represents (fun _ => none) {} where
  counts := ⟨0, .inl ⟨rfl, rfl⟩, by omega, by simp, .inl rfl⟩
  hashes := fun _ => rfl
  members := ⟨∅, .inl ⟨rfl, rfl⟩, by simp [Enumerates]⟩
  known := by simp
  titled := by simp

theorem Represents.set {keys after : Bytes → Option Value} {store : Store}
    (represents : Represents keys store) {id : Nat} {task : Option (Bytes × Bool)}
    {issued : List Nat} (counts : Counts (after nextIdKey) issued)
    (hash : after (taskKey id) = task.map fun task => .hash (taskFields task.1 task.2))
    (others : ∀ other, other ≠ id → after (taskKey other) = keys (taskKey other))
    {members : Finset Bytes} (isSet : setOf (after taskSetKey) members)
    (enumerates : Enumerates members (Function.update store.tasks id task))
    (known : task.isSome → id ∈ issued) (grows : ∀ old ∈ store.issued, old ∈ issued)
    (titled : ∀ title completed, task = some (title, completed) → title ≠ []) :
    Represents after ⟨issued, Function.update store.tasks id task⟩ where
  counts := counts
  hashes := by
    intro other
    by_cases same : other = id
    · subst same
      simp only [Function.update_self]
      exact hash
    · simp only [Function.update_of_ne same]
      rw [others other same, represents.hashes]
  members := ⟨members, isSet, enumerates⟩
  known := by
    intro other
    by_cases same : other = id
    · subst same
      simp only [Function.update_self]
      exact known
    · simp only [Function.update_of_ne same]
      exact fun present => grows other (represents.known other present)
  titled := by
    intro other
    by_cases same : other = id
    · subst same
      simp only [Function.update_self]
      exact titled
    · simp only [Function.update_of_ne same]
      exact represents.titled other

/-! ### The scripts -/

section Scripts

variable {State : Type} (server : RedisServer State) {state : State} {store : Store}

theorem create_script_ok (represents : Represents (server.keys state) store) {title : Bytes}
    (titled : title ≠ []) {last : Nat} (counts : counter (server.keys state nextIdKey) last)
    (small : last + 1 < 2 ^ 63) (newest : ∀ id ∈ store.issued, id ≤ last) :
    ∃ after, exec (createScript server nextIdKey taskSetKey title) state =
        (.ok (.integer (last + 1 : Nat)), after) ∧
      Represents (server.keys after) ⟨(last + 1) :: store.issued,
        Function.update store.tasks (last + 1) (some (title, false))⟩ := by
  have fresh : store.tasks (last + 1) = none := by
    rw [← Option.not_isSome_iff_eq_none]
    intro present
    have bound := newest _ (represents.known _ present)
    omega
  obtain ⟨members, isSet, enumerates⟩ := represents.members
  obtain ⟨first, counted, firstKeys⟩ := server.incr_ok state nextIdKey last counts small
  have noHash : hashOf (server.keys first (taskKey (last + 1))) fun _ => none := by
    rw [firstKeys, Function.update_of_ne (task_key_ne_next_id _), represents.hashes, fresh]
    exact .inl ⟨rfl, rfl⟩
  obtain ⟨added, second, hashed, secondKeys⟩ := server.hset_ok first (taskKey (last + 1)) _
    [(ascii "title", title), (ascii "completed", ascii "0")] noHash
  have sameSet : setOf (server.keys second taskSetKey) members := by
    rw [secondKeys, Function.update_of_ne (task_key_ne_task_set _).symm, firstKeys,
      Function.update_of_ne next_id_ne_task_set.symm]
    exact isSet
  obtain ⟨inserted, third, listed, thirdKeys⟩ := server.sadd_ok second taskSetKey members
    (decimal (last + 1)) sameSet
  rw [secondKeys, firstKeys] at thirdKeys
  refine ⟨third, ?_, ?_⟩
  · unfold createScript
    rw [exec_bind_ok counted]
    change exec (server.hset (taskKey (last + 1)) _ >>= _) first = _
    rw [exec_bind_ok hashed, exec_bind_ok listed]
    rfl
  · apply represents.set
    · refine ⟨last + 1, .inr ?_, small, ?_, .inr (by simp)⟩
      · rw [thirdKeys, Function.update_of_ne next_id_ne_task_set,
          Function.update_of_ne (task_key_ne_next_id _).symm, Function.update_self]
      · intro id member
        rcases List.mem_cons.mp member with rfl | old
        · exact Nat.le_refl _
        · exact Nat.le_succ_of_le (newest id old)
    · rw [thirdKeys, Function.update_of_ne (task_key_ne_task_set _), Function.update_self]
      rfl
    · intro other differs
      rw [thirdKeys, Function.update_of_ne (task_key_ne_task_set other),
        Function.update_of_ne (fun equal => differs (task_key_injective equal)),
        Function.update_of_ne (task_key_ne_next_id other)]
    · rw [thirdKeys, Function.update_self]
      exact set_of_set_value _
    · exact enumerates.insert (last + 1) (title, false)
    · simp
    · exact fun old member => List.mem_cons_of_mem _ member
    · intro other completed same
      cases same
      exact titled

theorem update_script_present (represents : Represents (server.keys state) store) {id : Nat}
    {oldTitle : Bytes} {wasCompleted : Bool}
    (present : store.tasks id = some (oldTitle, wasCompleted)) (title : Bytes)
    (completed : Bool) :
    let newTitle := if title = [] then oldTitle else title
    ∃ after, exec (updateScript server (taskKey id) title (completedText completed)) state =
        (.ok (.array [.integer 1, .string newTitle]), after) ∧
      Represents (server.keys after) ⟨store.issued,
        Function.update store.tasks id (some (newTitle, completed))⟩ := by
  intro newTitle
  obtain ⟨members, isSet, enumerates⟩ := represents.members
  have hash : server.keys state (taskKey id) =
      some (.hash (taskFields oldTitle wasCompleted)) := by
    rw [represents.hashes, present]
    rfl
  have found := server.exists_ok state (taskKey id)
  rw [hash] at found
  have titleRead := server.hget_ok state (taskKey id) _ (ascii "title") (.inr hash)
  rw [task_fields_title] at titleRead
  obtain ⟨added, after, hashed, keys⟩ := server.hset_ok state (taskKey id) _
    [(ascii "title", newTitle), (ascii "completed", completedText completed)] (.inr hash)
  rw [set_task_fields] at keys
  have chosen : (if title ≠ [] then some title else some oldTitle) = some newTitle := by
    by_cases empty : title = []
    · simp [newTitle, empty]
    · simp [newTitle, empty]
  refine ⟨after, ?_, ?_⟩
  · unfold updateScript
    rw [exec_bind_ok found]
    change exec (server.hget (taskKey id) (ascii "title") >>= _) state = _
    rw [exec_bind_ok titleRead, chosen]
    change exec (server.hset (taskKey id) _ >>= _) state = _
    rw [exec_bind_ok hashed]
    rfl
  · apply represents.set
    · rw [keys, Function.update_of_ne (task_key_ne_next_id id).symm]
      exact represents.counts
    · rw [keys, Function.update_self]
      rfl
    · intro other differs
      rw [keys, Function.update_of_ne fun equal => differs (task_key_injective equal)]
    · rw [keys, Function.update_of_ne (task_key_ne_task_set id).symm]
      exact isSet
    · exact enumerates.replace (by rw [present]; rfl) _
    · exact fun _ => represents.known id (by rw [present]; rfl)
    · exact fun old member => member
    · intro other otherCompleted same
      cases same
      by_cases empty : title = []
      · simp only [newTitle, if_pos empty]
        exact represents.titled id oldTitle wasCompleted present
      · simp only [newTitle, if_neg empty]
        exact empty

theorem update_script_absent (represents : Represents (server.keys state) store) {id : Nat}
    (absent : store.tasks id = none) (title completed : Bytes) :
    exec (updateScript server (taskKey id) title completed) state =
      (.ok (.array [.integer 0]), state) := by
  have missing := server.exists_ok state (taskKey id)
  rw [represents.hashes, absent] at missing
  unfold updateScript
  rw [exec_bind_ok missing]
  rfl

theorem remove_script_present (represents : Represents (server.keys state) store) {id : Nat}
    (present : (store.tasks id).isSome) :
    ∃ after, exec (removeScript server (taskKey id) taskSetKey (decimal id)) state =
        (.ok (.integer 1), after) ∧
      Represents (server.keys after) ⟨store.issued, Function.update store.tasks id none⟩ := by
  obtain ⟨members, isSet, enumerates⟩ := represents.members
  have found := server.exists_ok state (taskKey id)
  rw [represents.hashes, Option.isSome_map, if_pos present] at found
  obtain ⟨deleted, first, removed, firstKeys⟩ := server.del_ok state (taskKey id)
  have sameSet : setOf (server.keys first taskSetKey) members := by
    rw [firstKeys, Function.update_of_ne (task_key_ne_task_set id).symm]
    exact isSet
  obtain ⟨taken, second, unlisted, secondKeys⟩ := server.srem_ok first taskSetKey members
    (decimal id) sameSet
  rw [firstKeys] at secondKeys
  refine ⟨second, ?_, ?_⟩
  · unfold removeScript
    rw [exec_bind_ok found]
    change exec (server.del (taskKey id) >>= _) state = _
    rw [exec_bind_ok removed, exec_bind_ok unlisted]
    rfl
  · apply represents.set
    · rw [secondKeys, Function.update_of_ne next_id_ne_task_set,
        Function.update_of_ne (task_key_ne_next_id id).symm]
      exact represents.counts
    · rw [secondKeys, Function.update_of_ne (task_key_ne_task_set id), Function.update_self]
      rfl
    · intro other differs
      rw [secondKeys, Function.update_of_ne (task_key_ne_task_set other),
        Function.update_of_ne fun equal => differs (task_key_injective equal)]
    · rw [secondKeys, Function.update_self]
      exact set_of_set_value _
    · exact enumerates.erase id
    · simp
    · exact fun old member => member
    · simp

theorem remove_script_absent (represents : Represents (server.keys state) store) {id : Nat}
    (absent : store.tasks id = none) :
    exec (removeScript server (taskKey id) taskSetKey (decimal id)) state =
      (.ok (.integer 0), state) := by
  have missing := server.exists_ok state (taskKey id)
  rw [represents.hashes, absent] at missing
  unfold removeScript
  rw [exec_bind_ok missing]
  rfl

end Scripts

/-! ### The listing -/

/-- The tasks of the given ids. -/
def tasksOf (tasks : Nat → Option (Bytes × Bool)) (ids : List Nat) : List Task :=
  ids.filterMap fun id => (tasks id).map fun task => ⟨id, task.1, task.2⟩

theorem mem_tasks_of {tasks : Nat → Option (Bytes × Bool)} {ids : List Nat}
    (all : ∀ id, (tasks id).isSome → id ∈ ids) (task : Task) :
    task ∈ tasksOf tasks ids ↔ tasks task.id = some (task.title, task.completed) := by
  unfold tasksOf
  rw [List.mem_filterMap]
  constructor
  · intro found
    obtain ⟨id, -, made⟩ := found
    obtain ⟨entry, present, rfl⟩ := Option.map_eq_some_iff.mp made
    exact present
  · intro present
    refine ⟨task.id, all task.id (by rw [present]; rfl), ?_⟩
    rw [present]
    rfl

theorem tasks_of_distinct (tasks : Nat → Option (Bytes × Bool)) {ids : List Nat}
    (nodup : ids.Nodup) : (tasksOf tasks ids).Pairwise fun first second =>
      first.id ≠ second.id := by
  unfold tasksOf
  rw [List.pairwise_filterMap]
  apply nodup.imp
  intro first second differs firstTask madeFirst secondTask madeSecond
  obtain ⟨entry, -, rfl⟩ := Option.map_eq_some_iff.mp madeFirst
  obtain ⟨other, -, rfl⟩ := Option.map_eq_some_iff.mp madeSecond
  exact differs

theorem sort_by_id_increasing {tasks : List Task}
    (distinct : tasks.Pairwise fun first second => first.id ≠ second.id) :
    (sortById tasks).Pairwise fun first second => first.id < second.id := by
  let byId := fun first second : Task => first.id ≤ second.id
  have : Std.Total byId := ⟨fun first second => Nat.le_total first.id second.id⟩
  have : IsTrans Task byId := ⟨fun _ _ _ => Nat.le_trans⟩
  have sorted : (sortById tasks).Pairwise byId := List.pairwise_insertionSort byId tasks
  have stillDistinct : (sortById tasks).Pairwise fun first second => first.id ≠ second.id :=
    (List.perm_insertionSort byId tasks).symm.pairwise distinct fun differs => differs.symm
  apply (sorted.and stillDistinct).imp
  intro first second both
  exact Nat.lt_of_le_of_ne both.1 both.2

/-- The three replies of the listing for one member of the set, and the task they make. -/
def listedReplies (keys : Bytes → Option Value) (member : Bytes) : List Reply :=
  [.element, .field (ascii "task:") (ascii "title"),
    .field (ascii "task:") (ascii "completed")].map (sortGet keys member)

def listedTask (keys : Bytes → Option Value) (member : Bytes) : Option RedisTask :=
  readTask (sortGet keys member .element)
    (sortGet keys member (.field (ascii "task:") (ascii "title")))
    (sortGet keys member (.field (ascii "task:") (ascii "completed")))

theorem read_tasks_listed (keys : Bytes → Option Value) (order : List Bytes) :
    readTasks (.array (order.flatMap (listedReplies keys))) =
      some (order.flatMap fun member => (listedTask keys member).toList) := by
  have triples : (order.flatMap (listedReplies keys)).length % 3 = 0 ∧
      readTriples (order.flatMap (listedReplies keys)) =
        order.flatMap fun member => (listedTask keys member).toList := by
    induction order with
    | nil => exact ⟨rfl, rfl⟩
    | cons member order ih =>
        obtain ⟨length, read⟩ := ih
        constructor
        · rw [List.flatMap_cons, List.length_append]
          simp only [listedReplies, List.length_map, List.length_cons, List.length_nil] at length ⊢
          omega
        · rw [List.flatMap_cons, List.flatMap_cons, ← read]
          rfl
  simp only [readTasks, triples.1, triples.2, ne_eq, not_true_eq_false, if_false]

section Listing

variable {State : Type} (server : RedisServer State) {state : State} {store : Store}

theorem listed_task_of_id {keys : Bytes → Option Value} (represents : Represents keys store)
    {id : Nat} {task : Bytes × Bool} (present : store.tasks id = some task) :
    listedTask keys (decimal id) = some ⟨id, task.1, task.2⟩ := by
  have hash : keys (ascii "task:" ++ decimal id) = some (.hash (taskFields task.1 task.2)) := by
    have hashed := represents.hashes id
    rw [present] at hashed
    exact hashed
  have small : id < 2 ^ 64 := by
    obtain ⟨last, -, bound, newest, -⟩ := represents.counts
    have le := newest id (represents.known id (by rw [present]; rfl))
    omega
  simp only [listedTask, sortGet, hash, task_fields_title, task_fields_completed,
    Option.elim_some, readTask, stoull_decimal small, Option.map_some]
  cases task.2 <;> rfl

theorem listed_tasks_of_ids {keys : Bytes → Option Value} (represents : Represents keys store)
    (ids : List Nat) (present : ∀ id ∈ ids, (store.tasks id).isSome) :
    ((ids.map decimal).flatMap fun member => (listedTask keys member).toList).map
      (fun task => ⟨task.id, task.title, task.completed⟩) = tasksOf store.tasks ids := by
  induction ids with
  | nil => rfl
  | cons id ids ih =>
      have rest := ih fun other member => present other (List.mem_cons_of_mem _ member)
      obtain ⟨task, found⟩ := Option.isSome_iff_exists.mp (present id (by simp))
      unfold tasksOf at rest ⊢
      rw [List.map_cons, List.flatMap_cons, listed_task_of_id represents found, List.map_append,
        rest, List.filterMap_cons, found]
      rfl

theorem exists_ids {order : List Bytes} (numerals : ∀ member ∈ order, ∃ id, member = decimal id) :
    ∃ ids : List Nat, order = ids.map decimal := by
  induction order with
  | nil => exact ⟨[], rfl⟩
  | cons member order ih =>
      obtain ⟨id, rfl⟩ := numerals member (by simp)
      obtain ⟨ids, rfl⟩ := ih fun other inOrder => numerals other (List.mem_cons_of_mem _ inOrder)
      exact ⟨id :: ids, rfl⟩

theorem list_tasks_ok (represents : Represents (server.keys state) store) :
    ∃ elements tasks, exec (listTasks server taskSetKey) state = (.ok (.array elements), state) ∧
      readTasks (.array elements) = some tasks ∧
      store.Lists (sortById (tasks.map fun task => ⟨task.id, task.title, task.completed⟩)) := by
  obtain ⟨members, isSet, enumerates⟩ := represents.members
  obtain ⟨order, nodup, inOrder, sorted⟩ := server.sort_ok state taskSetKey
    [.element, .field (ascii "task:") (ascii "title"), .field (ascii "task:") (ascii "completed")]
    members isSet
  have written : ∀ member ∈ order, ∃ id, member = decimal id ∧ (store.tasks id).isSome :=
    fun member listed => (enumerates member).mp ((inOrder member).mp listed)
  obtain ⟨ids, rfl⟩ := exists_ids fun member listed =>
    (written member listed).imp fun _ both => both.1
  have inIds : ∀ id, id ∈ ids ↔ (store.tasks id).isSome := by
    intro id
    rw [← List.mem_map_of_injective decimal_injective, inOrder, enumerates]
    constructor
    · intro found
      obtain ⟨other, same, present⟩ := found
      rwa [decimal_injective same]
    · exact fun present => ⟨id, rfl, present⟩
  refine ⟨_, _, ?_, read_tasks_listed (server.keys state) (ids.map decimal), ?_⟩
  · unfold listTasks
    rw [exec_bind_ok sorted]
    rfl
  · rw [listed_tasks_of_ids represents ids fun id member => (inIds id).mp member]
    constructor
    · intro task
      unfold sortById
      rw [List.mem_insertionSort, mem_tasks_of fun id => (inIds id).mpr]
    · exact sort_by_id_increasing (tasks_of_distinct store.tasks (nodup.of_map decimal))

end Listing

/-! ### Jobs and runs -/

section Jobs

variable {State : Type} (server : RedisServer State) {state : State} {store : Store}

theorem get_all_performs (represents : Represents (server.keys state) store) :
    ∃ tasks, getAll server true state = (.listed true tasks, state) ∧ store.Lists tasks := by
  obtain ⟨elements, tasks, executed, read, lists⟩ := list_tasks_ok server represents
  refine ⟨_, ?_, lists⟩
  simp only [getAll, getAllTasks, redisCommand, executed, if_true, Option.bind_some, read]

theorem create_performs (represents : Represents (server.keys state) store) {title : Bytes}
    (titled : title ≠ []) :
    ∃ outcome after next, create server true state title = (outcome, after) ∧
      Represents (server.keys after) next ∧
      store.Performs true (.create title) outcome next := by
  obtain ⟨last, counts, bound, newest, issued⟩ := represents.counts
  by_cases small : last + 1 < 2 ^ 63
  · obtain ⟨after, executed, created⟩ :=
      create_script_ok server represents titled counts small newest
    refine ⟨.created true ⟨last + 1, title, false⟩, after, _, ?_, created,
      .created title (last + 1) titled fun old member => Nat.lt_succ_of_le (newest old member)⟩
    have id : (((last + 1 : Nat) : Int) % 2 ^ 64).toNat = last + 1 := by omega
    simp only [create, createTask, redisCommand, executed, if_true, Option.bind_some, readCreated,
      id, List.isEmpty_iff, titled, if_false]
  · obtain ⟨message, fails⟩ :=
      server.incr_overflow state nextIdKey last counts (Nat.le_of_not_lt small)
    have exhausted : exec (createScript server nextIdKey taskSetKey title) state =
        (.error message, state) := by
      unfold createScript
      exact exec_bind_error fails _
    refine ⟨.created false {}, state, store, ?_, represents, .exhausted title titled ?_⟩
    · simp only [create, createTask, redisCommand, exhausted, if_true, Option.bind_some,
        readCreated, List.isEmpty_iff, titled, if_false]
    · have top : last = 2 ^ 63 - 1 := by omega
      rcases issued with zero | member
      · omega
      · rwa [← top]

theorem update_performs (represents : Represents (server.keys state) store) (id : Nat)
    (title : Bytes) (completed : Bool) :
    ∃ outcome after next, update server true state id title completed = (outcome, after) ∧
      Represents (server.keys after) next ∧
      store.Performs true (.update id title completed) outcome next := by
  cases present : store.tasks id with
  | none =>
      have executed := update_script_absent server represents present title
        (completedText completed)
      unfold completedText at executed
      refine ⟨.updated false {}, state, store, ?_, represents,
        .notUpdated id title completed present⟩
      simp only [update, updateTask, redisCommand, executed, if_true, Option.bind_some, readUpdated]
  | some task =>
      obtain ⟨after, executed, updated⟩ :=
        update_script_present server represents present title completed
      unfold completedText at executed
      refine ⟨.updated true ⟨id, if title = [] then task.1 else title, completed⟩, after, _, ?_,
        updated, .updated id title completed task.1 _ task.2 present rfl⟩
      simp only [update, updateTask, redisCommand, executed, if_true, Option.bind_some, readUpdated]

theorem remove_performs (represents : Represents (server.keys state) store) (id : Nat) :
    ∃ outcome after next, remove server true state id = (outcome, after) ∧
      Represents (server.keys after) next ∧
      store.Performs true (.remove id) outcome next := by
  cases present : store.tasks id with
  | none =>
      have executed := remove_script_absent server represents present
      refine ⟨.removed true false, state, store, ?_, represents, .notRemoved id present⟩
      simp only [remove, removeTask, redisCommand, executed, if_true, Option.bind_some, readRemoved]
      rfl
  | some task =>
      have isSome : (store.tasks id).isSome := by rw [present]; rfl
      obtain ⟨after, executed, removed⟩ := remove_script_present server represents isSome
      refine ⟨.removed true true, after, _, ?_, removed, .removed id isSome⟩
      simp only [remove, removeTask, redisCommand, executed, if_true, Option.bind_some, readRemoved]
      rfl

theorem unreached_performs (state : State) (operation : Operation)
    (titled : operation ≠ .create []) :
    perform server false state operation = (Store.failure operation, state) := by
  cases operation with
  | getAll => rfl
  | update id title completed => rfl
  | remove id => rfl
  | create title =>
      cases title with
      | nil => exact absurd rfl titled
      | cons first rest => rfl

/-- One job: the map does what the job reports, and Redis still stands for it. -/
theorem perform_performs (represents : Represents (server.keys state) store) (reached : Bool)
    (operation : Operation) :
    ∃ outcome after next, perform server reached state operation = (outcome, after) ∧
      Represents (server.keys after) next ∧ store.Performs reached operation outcome next := by
  by_cases titled : operation = .create []
  · subst titled
    exact ⟨.rejected, state, store, rfl, represents, .rejected reached⟩
  · cases reached with
    | false =>
        exact ⟨_, state, store, unreached_performs server state operation titled, represents,
          .unreached operation titled⟩
    | true =>
        cases operation with
        | getAll =>
            obtain ⟨tasks, done, lists⟩ := get_all_performs server represents
            exact ⟨_, state, store, done, represents, .listed tasks lists⟩
        | create title =>
            exact create_performs server represents fun empty => titled (by rw [empty])
        | update id title completed => exact update_performs server represents id title completed
        | remove id => exact remove_performs server represents id

theorem perform_all_runs (represents : Represents (server.keys state) store)
    (operations : List (Bool × Operation)) :
    ∃ final, store.Run operations (performAll server state operations).1 final ∧
      Represents (server.keys (performAll server state operations).2) final := by
  induction operations generalizing state store with
  | nil => exact ⟨store, .nil store, represents⟩
  | cons call operations ih =>
      obtain ⟨reached, operation⟩ := call
      obtain ⟨outcome, after, next, performed, stillRepresents, performs⟩ :=
        perform_performs server represents reached operation
      obtain ⟨final, rest, finalRepresents⟩ := ih stillRepresents
      unfold performAll
      rw [performed]
      exact ⟨final, .cons performs rest, finalRepresents⟩

end Jobs

/-- From an empty Redis, any jobs in any order: what they report is what they do to
the map, each task of the map has its hash and no other hash of a task exists, the
set lists exactly the ids of the hashes, and each hash has a title and a flag. -/
theorem task_store_refines_map {State : Type} (server : RedisServer State) (start : State)
    (empty : ∀ key, server.keys start key = none) (operations : List (Bool × Operation)) :
    let keys := server.keys (performAll server start operations).2
    ∃ store : Store,
      Store.Run {} operations (performAll server start operations).1 store ∧
      (∀ id, keys (taskKey id) =
        (store.tasks id).map fun task => .hash (taskFields task.1 task.2)) ∧
      (∃ members, setOf (keys taskSetKey) members ∧
        ∀ member, member ∈ members ↔
          ∃ id fields, member = decimal id ∧ keys (taskKey id) = some (.hash fields)) ∧
      ∀ id fields, keys (taskKey id) = some (.hash fields) →
        (∃ title, fields (ascii "title") = some title ∧ title ≠ []) ∧
        (fields (ascii "completed") = some (ascii "0") ∨
          fields (ascii "completed") = some (ascii "1")) := by
  intro keys
  have represents : Represents (server.keys start) {} := by
    rw [funext empty]
    exact empty_represents
  obtain ⟨store, run, final⟩ := perform_all_runs server represents operations
  change Represents keys store at final
  obtain ⟨members, isSet, enumerates⟩ := final.members
  refine ⟨store, run, final.hashes, ⟨members, isSet, ?_⟩, ?_⟩
  · intro member
    rw [enumerates]
    constructor
    · intro found
      obtain ⟨id, rfl, present⟩ := found
      obtain ⟨task, exists'⟩ := Option.isSome_iff_exists.mp present
      exact ⟨id, taskFields task.1 task.2, rfl, by rw [final.hashes, exists']; rfl⟩
    · intro found
      obtain ⟨id, fields, rfl, hash⟩ := found
      refine ⟨id, rfl, ?_⟩
      rw [final.hashes] at hash
      obtain ⟨task, exists', -⟩ := Option.map_eq_some_iff.mp hash
      rw [exists']
      rfl
  · intro id fields hash
    rw [final.hashes] at hash
    obtain ⟨task, exists', made⟩ := Option.map_eq_some_iff.mp hash
    cases made
    refine ⟨⟨task.1, task_fields_title _ _, final.titled id task.1 task.2 exists'⟩, ?_⟩
    rw [task_fields_completed]
    cases task.2 with
    | false => exact .inl rfl
    | true => exact .inr rfl

/-- Two tasks are created around a call that does not reach Redis; the first is
completed under its old title, listed and removed. -/
def mixedJobs : List (Bool × Operation) :=
  [(true, .create (ascii "milk")), (false, .create (ascii "tea")),
    (true, .create (ascii "bread")), (true, .update 1 [] true), (true, .update 9 [] true),
    (true, .getAll), (true, .remove 1), (true, .remove 1)]

theorem mixed_jobs_refine_map :
    let server := MemoryServer.memoryServer
    let run := performAll server (fun _ => none) mixedJobs
    run.1 = [.created true ⟨1, ascii "milk", false⟩, .created false {},
      .created true ⟨2, ascii "bread", false⟩, .updated true ⟨1, ascii "milk", true⟩,
      .updated false {},
      .listed true [⟨1, ascii "milk", true⟩, ⟨2, ascii "bread", false⟩],
      .removed true true, .removed true false] ∧
    ∃ store : Store, Store.Run {} mixedJobs run.1 store := by
  intro server run
  obtain ⟨store, runs, -⟩ :=
    task_store_refines_map server (fun _ => none) (fun _ => rfl) mixedJobs
  exact ⟨by decide, store, runs⟩

end Aorta.Tasks

namespace Aorta.Tasks.Store

set_option autoImplicit false

/-- How operations and their outcomes come about, from the empty map. One that failed takes
effect once, later, or never. -/
inductive Explains : List (Operation × Outcome) → List Operation → Store → Prop
  | nil : Explains [] [] {}
  | executed {entries : List (Operation × Outcome)} {abandoned : List Operation}
      {store next : Store} (explains : Explains entries abandoned store) (operation : Operation)
      (outcome : Outcome) (performs : store.Performs true operation outcome next) :
      Explains (entries ++ [(operation, outcome)]) abandoned next
  | failed {entries : List (Operation × Outcome)} {abandoned : List Operation}
      {store next : Store} (explains : Explains entries abandoned store) (operation : Operation)
      (outcome : Outcome) (performs : store.Performs false operation outcome next) :
      Explains (entries ++ [(operation, outcome)]) (abandoned ++ [operation]) next
  | late {entries : List (Operation × Outcome)} {abandoned : List Operation}
      {store next : Store} (explains : Explains entries abandoned store) (index : Nat)
      (operation : Operation) (found : abandoned[index]? = some operation) (outcome : Outcome)
      (performs : store.Performs true operation outcome next) :
      Explains entries (abandoned.eraseIdx index) next

end Aorta.Tasks.Store
