import Aorta.Redis.RedisServer

/-!
# A server in memory

A server that keeps its keys in a table, its sets as lists without repetition. It
shows that the documented behaviour of `RedisServer` can be had, and runs.
-/

namespace Aorta.Redis

open Aorta.Library.Ascii Aorta.Library.Decimal

set_option autoImplicit false

namespace MemoryServer

inductive Stored where
  | number (value : Nat)
  | hash (fields : Bytes → Option Bytes)
  | set (members : List Bytes)

def Stored.value : Stored → Value
  | .number value => .string (decimal value)
  | .hash fields => .hash fields
  | .set members => .set members.toFinset

abbrev Table := Bytes → Option Stored

def keys (table : Table) (key : Bytes) : Option Value := (table key).map Stored.value

theorem keys_update (table : Table) (key : Bytes) (stored : Option Stored) :
    keys (Function.update table key stored) =
      Function.update (keys table) key (stored.map Stored.value) := by
  funext other
  unfold keys
  by_cases same : other = key
  · subst same
    simp
  · rw [Function.update_of_ne same, Function.update_of_ne same]

def wrongType : Bytes :=
  ascii "WRONGTYPE Operation against a key holding the wrong kind of value"

/-- A command on one key: it reads the key, and fails or answers and writes it back. -/
def command {Result : Type}
    (run : Option Stored → Except Bytes (Result × Option Stored)) (key : Bytes) :
    Script Table Result := fun table =>
  match run (table key) with
  | .ok (result, stored) => (.ok result, Function.update table key stored)
  | .error message => (.error message, table)

theorem command_ok {Result : Type} {run : Option Stored → Except Bytes (Result × Option Stored)}
    {table : Table} {key : Bytes} {result : Result} {stored : Option Stored}
    (runs : run (table key) = .ok (result, stored)) :
    exec (command run key) table = (.ok result, Function.update table key stored) := by
  change command run key table = _
  unfold command
  rw [runs]

theorem command_error {Result : Type}
    {run : Option Stored → Except Bytes (Result × Option Stored)} {table : Table}
    {key message : Bytes}
    (fails : run (table key) = .error message) :
    exec (command run key) table = (.error message, table) := by
  change command run key table = _
  unfold command
  rw [fails]

def incr : Option Stored → Except Bytes (Nat × Option Stored)
  | none => .ok (1, some (.number 1))
  | some (.number value) =>
      if value + 1 < 2 ^ 63 then .ok (value + 1, some (.number (value + 1)))
      else .error (ascii "ERR increment or decrement would overflow")
  | some _ => .error wrongType

def hset (pairs : List (Bytes × Bytes)) : Option Stored → Except Bytes (Nat × Option Stored)
  | none => .ok (pairs.length, some (.hash (setFields (fun _ => none) pairs)))
  | some (.hash fields) =>
      .ok ((pairs.filter fun pair => (fields pair.1).isNone).length,
        some (.hash (setFields fields pairs)))
  | some _ => .error wrongType

def hget (name : Bytes) : Option Stored → Except Bytes (Option Bytes × Option Stored)
  | none => .ok (none, none)
  | some (.hash fields) => .ok (fields name, some (.hash fields))
  | some _ => .error wrongType

def storedSet (members : List Bytes) : Option Stored :=
  if members = [] then none else some (.set members)

theorem stored_set_value (members : List Bytes) :
    (storedSet members).map Stored.value = setValue members.toFinset := by
  unfold storedSet setValue
  by_cases empty : members = []
  · simp [empty]
  · simp [empty, Stored.value]

def sadd (member : Bytes) : Option Stored → Except Bytes (Nat × Option Stored)
  | none => .ok (1, storedSet [member])
  | some (.set members) =>
      .ok (if member ∈ members then 0 else 1, storedSet (members.insert member))
  | some _ => .error wrongType

def srem (member : Bytes) : Option Stored → Except Bytes (Nat × Option Stored)
  | none => .ok (0, none)
  | some (.set members) =>
      .ok (if member ∈ members then 1 else 0, storedSet (members.filter (· ≠ member)))
  | some _ => .error wrongType

def keyExists (stored : Option Stored) : Except Bytes (Nat × Option Stored) :=
  .ok (if stored.isSome then 1 else 0, stored)

def del (stored : Option Stored) : Except Bytes (Nat × Option Stored) :=
  .ok (if stored.isSome then 1 else 0, none)

def sort (key : Bytes) (gets : List SortGet) : Script Table (List Reply) := fun table =>
  match table key with
  | none => (.ok [], table)
  | some (.set members) =>
      (.ok (members.dedup.flatMap fun element => gets.map (sortGet (keys table) element)), table)
  | some _ => (.error wrongType, table)

section Reads

variable {table : Table} {key : Bytes}

theorem counter_read {number : Nat} (counts : counter (keys table key) number) :
    (table key = none ∧ number = 0) ∨ table key = some (.number number) := by
  unfold counter keys at counts
  cases stored : table key with
  | none => simpa [stored] using counts
  | some value =>
      cases value with
      | number written =>
          right
          simp only [stored, Option.map_some, Stored.value, reduceCtorEq, false_and, false_or,
            Option.some.injEq, Value.string.injEq] at counts
          rw [decimal_injective counts]
      | hash fields => simp [stored, Stored.value] at counts
      | set members => simp [stored, Stored.value] at counts

theorem hash_read {fields : Bytes → Option Bytes} (isHash : hashOf (keys table key) fields) :
    (table key = none ∧ fields = fun _ => none) ∨ table key = some (.hash fields) := by
  unfold hashOf keys at isHash
  cases stored : table key with
  | none => simpa [stored] using isHash
  | some value =>
      cases value with
      | number written => simp [stored, Stored.value] at isHash
      | hash written => simpa [stored, Stored.value] using isHash
      | set members => simp [stored, Stored.value] at isHash

theorem set_read {members : Finset Bytes} (isSet : setOf (keys table key) members) :
    (table key = none ∧ members = ∅) ∨
      ∃ listed, table key = some (.set listed) ∧ members = listed.toFinset := by
  unfold Redis.setOf keys at isSet
  cases stored : table key with
  | none => simpa [stored] using isSet
  | some value =>
      cases value with
      | number written => simp [stored, Stored.value] at isSet
      | hash fields => simp [stored, Stored.value] at isSet
      | set listed =>
          right
          simp only [stored, Option.map_some, Stored.value, reduceCtorEq, false_and, false_or,
            Option.some.injEq, Value.set.injEq] at isSet
          exact ⟨listed, rfl, isSet.symm⟩

end Reads

theorem keys_set_update (table : Table) (key : Bytes) (members : List Bytes) :
    keys (Function.update table key (storedSet members)) =
      Function.update (keys table) key (setValue members.toFinset) := by
  rw [keys_update, stored_set_value]

def memoryServer : RedisServer Table where
  keys := keys
  incr := command incr
  hset := fun key pairs => command (hset pairs) key
  hget := fun key name => command (hget name) key
  sadd := fun key member => command (sadd member) key
  srem := fun key member => command (srem member) key
  keyExists := command keyExists
  del := command del
  sort := sort
  incr_ok := by
    intro table key number counts small
    have runs : incr (table key) = .ok (number + 1, some (.number (number + 1))) := by
      rcases counter_read counts with ⟨missing, rfl⟩ | found
      · rw [missing]
        rfl
      · rw [found]
        exact if_pos small
    exact ⟨_, command_ok runs, keys_update _ _ _⟩
  incr_overflow := by
    intro table key number counts large
    rcases counter_read counts with ⟨-, rfl⟩ | found
    · omega
    · have fails : incr (table key) =
          .error (ascii "ERR increment or decrement would overflow") := by
        rw [found]
        exact if_neg (Nat.not_lt.mpr large)
      exact ⟨_, command_error fails⟩
  hset_ok := by
    intro table key fields pairs isHash
    have runs : ∃ added, hset pairs (table key) =
        .ok (added, some (.hash (setFields fields pairs))) := by
      rcases hash_read isHash with ⟨missing, rfl⟩ | found
      · rw [missing]
        exact ⟨_, rfl⟩
      · rw [found]
        exact ⟨_, rfl⟩
    obtain ⟨added, runs⟩ := runs
    exact ⟨added, _, command_ok runs, keys_update _ _ _⟩
  hget_ok := by
    intro table key fields name isHash
    have runs : hget name (table key) = .ok (fields name, table key) := by
      rcases hash_read isHash with ⟨missing, rfl⟩ | found
      · rw [missing]
        rfl
      · rw [found]
        rfl
    rw [command_ok runs, Function.update_eq_self]
  sadd_ok := by
    intro table key members member isSet
    rcases set_read isSet with ⟨missing, rfl⟩ | ⟨listed, found, rfl⟩
    · have runs : sadd member (table key) = .ok (1, storedSet [member]) := by
        rw [missing]
        rfl
      refine ⟨_, _, command_ok runs, ?_⟩
      rw [keys_set_update]
      rfl
    · have runs : sadd member (table key) =
          .ok (if member ∈ listed then 0 else 1, storedSet (listed.insert member)) := by
        rw [found]
        rfl
      refine ⟨_, _, command_ok runs, ?_⟩
      rw [keys_set_update]
      congr 2
      ext other
      simp
  srem_ok := by
    intro table key members member isSet
    rcases set_read isSet with ⟨missing, rfl⟩ | ⟨listed, found, rfl⟩
    · have runs : srem member (table key) = .ok (0, storedSet []) := by
        rw [missing]
        rfl
      refine ⟨_, _, command_ok runs, ?_⟩
      rw [keys_set_update]
      rfl
    · have runs : srem member (table key) =
          .ok (if member ∈ listed then 1 else 0, storedSet (listed.filter (· ≠ member))) := by
        rw [found]
        rfl
      refine ⟨_, _, command_ok runs, ?_⟩
      rw [keys_set_update]
      congr 2
      ext other
      simp [and_comm]
  exists_ok := by
    intro table key
    have runs : keyExists (table key) =
        .ok (if (keys table key).isSome then 1 else 0, table key) := by
      unfold keyExists keys
      rw [Option.isSome_map]
    rw [command_ok runs, Function.update_eq_self]
  del_ok := by
    intro table key
    exact ⟨_, _, command_ok rfl, keys_update _ _ _⟩
  sort_ok := by
    intro table key gets members isSet
    rcases set_read isSet with ⟨missing, rfl⟩ | ⟨listed, found, rfl⟩
    · refine ⟨[], List.nodup_nil, by simp, ?_⟩
      change sort key gets table = _
      unfold sort
      rw [missing]
      rfl
    · refine ⟨listed.dedup, List.nodup_dedup listed, by simp, ?_⟩
      change sort key gets table = _
      unfold sort
      rw [found]

end MemoryServer

end Aorta.Redis
