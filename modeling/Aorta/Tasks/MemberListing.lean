import Aorta.Tasks.TaskStore

/-!
# The listing member by member

`getAllTasks` lists the tasks with one `SORT`. The same tasks come, in some order, from
asking for the members of the set and for the hash of each of them.
-/

namespace Aorta.Redis

open Aorta.Library.Ascii Aorta.Library.Decimal Aorta.Tasks

set_option autoImplicit false

/-- `SMEMBERS` and `HGETALL`, with their replies. -/
structure ReadCommands (State : Type) where
  smembers : Bytes → Script State Reply
  hgetall : Bytes → Script State Reply

/-- The commands answer what their documentation says, for the keys as they are. -/
structure ReadCommands.Documented {State : Type} (commands : ReadCommands State)
    (keys : Bytes → Option Value) (state : State) : Prop where
  members : ∀ key members, setOf (keys key) members →
    ∃ order : List Bytes, order.Nodup ∧ (∀ member, member ∈ order ↔ member ∈ members) ∧
      exec (commands.smembers key) state = (.ok (.array (order.map .string)), state)
  /-- The fields come in some order. -/
  hash : ∀ key fields, keys key = some (.hash fields) →
    ∃ names : List Bytes, (∀ name, name ∈ names ↔ (fields name).isSome = true) ∧
      exec (commands.hgetall key) state = (.ok (.array (names.flatMap fun name =>
        [.string name, .string ((fields name).getD [])])), state)
  missing : ∀ key, keys key = none →
    exec (commands.hgetall key) state = (.ok (.array []), state)
  wrongType : ∀ key value, keys key = some value → (∀ fields, value ≠ .hash fields) →
    ∃ message, exec (commands.hgetall key) state = (.error message, state)

section Replies

def readMembers : Reply → Option (List Bytes)
  | .array elements => some (elements.filterMap fun
      | .string text => some text
      | _ => none)
  | _ => none

/-- The loop over the fields, with the title and the flag that have been found. -/
def readFields (title : Option Bytes) (completed : Option Bool) :
    List Reply → Option (Bytes × Bool)
  | .string name :: .string value :: rest =>
      readFields (if name = ascii "title" then some value else title)
        (if name = ascii "completed" then some (value = ascii "1") else completed) rest
  | _ :: _ :: rest => readFields title completed rest
  | _ => title.bind fun title => completed.map fun completed => (title, completed)

def readHash : Reply → Option (Bytes × Bool)
  | .array elements => if elements.length % 2 ≠ 0 then none else readFields none none elements
  | _ => none

end Replies

section Client

variable {State : Type} (commands : ReadCommands State) (reached : Bool)

def smembers (key : Bytes) (state : State) : Option (List Bytes) × State :=
  let (reply, after) := redisCommand reached (commands.smembers key) state
  (reply.bind readMembers, after)

def hgetall (key : Bytes) (state : State) : Option (Bytes × Bool) × State :=
  let (reply, after) := redisCommand reached (commands.hgetall key) state
  (reply.bind readHash, after)

def memberTask (member : Bytes) (hash : Option (Bytes × Bool)) : Option RedisTask :=
  hash.bind fun (title, completed) => (stoull member).map fun id => ⟨id, title, completed⟩

def fetchTasks : List Bytes → State → List RedisTask × State
  | [], state => ([], state)
  | member :: members, state =>
      let (hash, after) := hgetall commands reached (ascii "task:" ++ member) state
      let (tasks, last) := fetchTasks members after
      ((memberTask member hash).toList ++ tasks, last)

/-- The tasks of the members of the set, one after the other. -/
def getEachTask (taskSetKey : Bytes) (state : State) : Option (List RedisTask) × State :=
  match smembers commands reached taskSetKey state with
  | (none, after) => (none, after)
  | (some members, after) =>
      let (tasks, last) := fetchTasks commands reached members after
      (some tasks, last)

end Client

section Hashes

variable {fields : Bytes → Option Bytes}

theorem found_later {Answer : Type} {name sought : Bytes} {names : List Bytes}
    {answer current found : Option Answer} (same : name = sought → current = answer) :
    (if sought ∈ names then answer else if name = sought then current else found) =
      if sought ∈ name :: names then answer else found := by
  by_cases later : sought ∈ names
  · rw [if_pos later, if_pos (List.mem_cons_of_mem name later)]
  · by_cases here : name = sought
    · rw [if_neg later, if_pos here, if_pos (here ▸ List.mem_cons_self), same here]
    · rw [if_neg later, if_neg here, if_neg]
      exact List.not_mem_cons_of_ne_of_not_mem (Ne.symm here) later

theorem read_fields_names {names : List Bytes}
    (present : ∀ name ∈ names, (fields name).isSome = true) (title : Option Bytes)
    (completed : Option Bool) :
    readFields title completed
        (names.flatMap fun name => [.string name, .string ((fields name).getD [])]) =
      (if ascii "title" ∈ names then fields (ascii "title") else title).bind fun title =>
        (if ascii "completed" ∈ names then
          (fields (ascii "completed")).map fun value => decide (value = ascii "1")
        else completed).map fun completed => (title, completed) := by
  induction names generalizing title completed with
  | nil => rfl
  | cons name names ih =>
      obtain ⟨value, isValue⟩ := Option.isSome_iff_exists.mp (present name List.mem_cons_self)
      have rest := ih fun other member => present other (List.mem_cons_of_mem name member)
      rw [List.flatMap_cons, List.cons_append, List.cons_append, List.nil_append, readFields, rest,
        isValue, Option.getD_some, found_later, found_later]
      · intro isCompleted
        rw [← isCompleted, isValue]
        rfl
      · intro isTitle
        rw [← isTitle, isValue]

theorem read_hash_names {names : List Bytes}
    (all : ∀ name, name ∈ names ↔ (fields name).isSome = true) :
    readHash (.array (names.flatMap fun name =>
        [.string name, .string ((fields name).getD [])])) =
      (fields (ascii "title")).bind fun title =>
        (fields (ascii "completed")).map fun value => (title, decide (value = ascii "1")) := by
  have absent : ∀ name, name ∉ names → fields name = none := by
    intro name unlisted
    rw [all] at unlisted
    exact Option.not_isSome_iff_eq_none.mp unlisted
  rw [readHash, if_neg (by simp), read_fields_names fun name => (all name).mp]
  by_cases titled : ascii "title" ∈ names
  · by_cases flagged : ascii "completed" ∈ names
    · rw [if_pos titled, if_pos flagged]
      simp only [Option.map_map]
      rfl
    · rw [if_pos titled, if_neg flagged, absent _ flagged]
      rfl
  · rw [if_neg titled, absent _ titled]
    rfl

end Hashes

section Members

variable {State : Type} {commands : ReadCommands State} {keys : Bytes → Option Value}
  {state : State}

/-- The task of a member is the one that the listing makes of its three replies. -/
theorem hgetall_member (documented : commands.Documented keys state) (member : Bytes) :
    ∃ hash, hgetall commands true (ascii "task:" ++ member) state = (hash, state) ∧
      memberTask member hash = listedTask keys member := by
  unfold hgetall redisCommand
  simp only [if_true]
  cases holds : keys (ascii "task:" ++ member) with
  | none =>
      rw [documented.missing _ holds]
      refine ⟨none, rfl, ?_⟩
      simp only [listedTask, sortGet, holds]
      rfl
  | some value =>
      cases value with
      | hash fields =>
          obtain ⟨names, all, answers⟩ := documented.hash _ fields holds
          rw [answers]
          refine ⟨_, rfl, ?_⟩
          rw [Option.bind_some, read_hash_names all]
          simp only [listedTask, sortGet, holds]
          cases fields (ascii "title") with
          | none => rfl
          | some title =>
              cases fields (ascii "completed") with
              | none => rfl
              | some completed => rfl
      | _ =>
          obtain ⟨message, fails⟩ := documented.wrongType _ _ holds (by simp)
          rw [fails]
          refine ⟨none, rfl, ?_⟩
          simp only [listedTask, sortGet, holds]
          rfl

theorem fetch_tasks_members (documented : commands.Documented keys state)
    (members : List Bytes) :
    fetchTasks commands true members state =
      (members.flatMap fun member => (listedTask keys member).toList, state) := by
  induction members with
  | nil => rfl
  | cons member members ih =>
      obtain ⟨hash, asked, task⟩ := hgetall_member documented member
      simp only [fetchTasks, asked, ih, task, List.flatMap_cons]

theorem read_members_strings (order : List Bytes) :
    readMembers (.array (order.map .string)) = some order := by
  simp only [readMembers, List.filterMap_map]
  congr 1
  induction order with
  | nil => rfl
  | cons member order ih =>
      rw [List.filterMap_cons, ih]
      rfl

theorem smembers_order (documented : commands.Documented keys state) {key : Bytes}
    {members : Finset Bytes} (isSet : setOf (keys key) members) :
    ∃ order : List Bytes, order.Nodup ∧ (∀ member, member ∈ order ↔ member ∈ members) ∧
      smembers commands true key state = (some order, state) := by
  obtain ⟨order, nodup, inOrder, answers⟩ := documented.members key members isSet
  refine ⟨order, nodup, inOrder, ?_⟩
  simp only [smembers, redisCommand, if_true, answers, Option.bind_some, read_members_strings]

theorem get_all_tasks_order (server : RedisServer State) {key : Bytes} {members : Finset Bytes}
    (isSet : setOf (server.keys state key) members) :
    ∃ order : List Bytes, order.Nodup ∧ (∀ member, member ∈ order ↔ member ∈ members) ∧
      getAllTasks server true key state =
        (some (order.flatMap fun member => (listedTask (server.keys state) member).toList),
          state) := by
  obtain ⟨order, nodup, inOrder, sorted⟩ := server.sort_ok state key
    [.element, .field (ascii "task:") (ascii "title"), .field (ascii "task:") (ascii "completed")]
    members isSet
  have read := read_tasks_listed (server.keys state) order
  refine ⟨order, nodup, inOrder, ?_⟩
  simp only [getAllTasks, redisCommand, if_true, listTasks]
  rw [exec_bind_ok sorted]
  exact congrArg (·, state) read

end Members

/-- The tasks that one `SORT` lists are those that come from asking for each member of the
set, whatever the keys of the members hold. -/
theorem get_all_tasks_perm {State : Type} (server : RedisServer State)
    (commands : ReadCommands State) (state : State) (taskSetKey : Bytes)
    (members : Finset Bytes) (isSet : setOf (server.keys state taskSetKey) members)
    (documented : commands.Documented (server.keys state) state) :
    ∃ tasks each, (getAllTasks server true taskSetKey state).1 = some tasks ∧
      (getEachTask commands true taskSetKey state).1 = some each ∧ tasks.Perm each := by
  obtain ⟨sorted, sortedNodup, inSorted, lists⟩ := get_all_tasks_order server isSet
  obtain ⟨order, nodup, inOrder, answers⟩ := smembers_order documented isSet
  have same : sorted.Perm order := by
    rw [List.perm_ext_iff_of_nodup sortedNodup nodup]
    intro member
    rw [inSorted, inOrder]
  refine ⟨_, _, congrArg Prod.fst lists, ?_, same.flatMap_right _⟩
  simp only [getEachTask, answers, fetch_tasks_members documented]

section Memory

/-- The reading commands of the server in memory, for hashes of these fields. -/
def memoryReads (names : List Bytes) : ReadCommands MemoryServer.Table where
  smembers := fun key table =>
    match table key with
    | some (.set members) => (.ok (.array (members.dedup.map .string)), table)
    | none => (.ok (.array []), table)
    | some _ => (.error MemoryServer.wrongType, table)
  hgetall := fun key table =>
    match table key with
    | some (.hash fields) =>
        (.ok (.array ((names.filter fun name => (fields name).isSome).flatMap fun name =>
          [.string name, .string ((fields name).getD [])])), table)
    | none => (.ok (.array []), table)
    | some _ => (.error MemoryServer.wrongType, table)

theorem memory_reads_documented {names : List Bytes} {table : MemoryServer.Table}
    (covered : ∀ key fields, table key = some (.hash fields) →
      ∀ name, (fields name).isSome = true → name ∈ names) :
    (memoryReads names).Documented (MemoryServer.keys table) table where
  members := by
    intro key members isSet
    rcases MemoryServer.set_read isSet with ⟨missing, empty⟩ | ⟨listed, found, same⟩
    · refine ⟨[], List.nodup_nil, by simp [empty], ?_⟩
      change (memoryReads names).smembers key table = _
      simp only [memoryReads, missing, List.map_nil]
    · refine ⟨listed.dedup, List.nodup_dedup listed, by simp [same], ?_⟩
      change (memoryReads names).smembers key table = _
      simp only [memoryReads, found]
  hash := by
    intro key fields isHash
    have found : table key = some (.hash fields) := by
      rcases MemoryServer.hash_read (.inr isHash) with ⟨missing, _⟩ | found
      · simp [MemoryServer.keys, missing] at isHash
      · exact found
    refine ⟨names.filter fun name => (fields name).isSome, ?_, ?_⟩
    · intro name
      rw [List.mem_filter]
      exact ⟨fun both => both.2, fun present => ⟨covered key fields found name present, present⟩⟩
    · change (memoryReads names).hgetall key table = _
      simp only [memoryReads, found]
  missing := by
    intro key isMissing
    have missing : table key = none := Option.map_eq_none_iff.mp isMissing
    change (memoryReads names).hgetall key table = _
    simp only [memoryReads, missing]
  wrongType := by
    intro key value holds other
    obtain ⟨stored, found, same⟩ := Option.map_eq_some_iff.mp holds
    refine ⟨MemoryServer.wrongType, ?_⟩
    change (memoryReads names).hgetall key table = _
    cases stored with
    | hash fields => exact absurd same.symm (other fields)
    | number number => simp only [memoryReads, found]
    | set members => simp only [memoryReads, found]

def mixedTable : MemoryServer.Table := fun key =>
  if key = ascii "tasks" then some (.set [ascii "1", ascii "x", ascii "2"])
  else if key = ascii "task:1" ∨ key = ascii "task:x" then
    some (.hash (taskFields (ascii "tea") true))
  else none

theorem mixed_table_fields :
    ∀ key fields, mixedTable key = some (.hash fields) →
      ∀ name, (fields name).isSome = true → name ∈ [ascii "completed", ascii "title"] := by
  intro key fields holds name present
  unfold mixedTable at holds
  split_ifs at holds
  · cases holds
  · cases holds
    by_contra other
    simp only [List.mem_cons, List.not_mem_nil, or_false, not_or] at other
    simp [taskFields, setFields, Function.update_of_ne other.1, Function.update_of_ne other.2]
      at present

theorem mixed_listing_perm :
    ∃ tasks each,
      (getAllTasks MemoryServer.memoryServer true (ascii "tasks") mixedTable).1 = some tasks ∧
        (getEachTask (memoryReads [ascii "completed", ascii "title"]) true (ascii "tasks")
          mixedTable).1 = some each ∧ tasks.Perm each := by
  apply get_all_tasks_perm MemoryServer.memoryServer _ mixedTable (ascii "tasks")
    {ascii "1", ascii "x", ascii "2"}
  · exact .inr rfl
  · exact memory_reads_documented mixed_table_fields

end Memory

end Aorta.Redis
