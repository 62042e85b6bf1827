import Mathlib.Data.Finset.Basic
import Mathlib.Logic.Function.Basic
import Aorta.Library.Decimal

/-!
# The Redis server

What the program relies on of a Redis server. `RedisServer` is any server whose
commands do to its keys what their documentation says, as far as the scripts and
the listing use them; what a server keeps besides (encodings, the order of a set)
stays open. A script is executed as a whole. An error reply ends it, and what it
has done before stays done.
-/

namespace Aorta.Redis

open Aorta.Library.Ascii Aorta.Library.Decimal

set_option autoImplicit false

/-- `redisReply`. -/
inductive Reply where
  | nil
  | integer (value : Int)
  | string (text : Bytes)
  | array (elements : List Reply)
  | status (text : Bytes)
  | error (message : Bytes)

/-- What a key holds. The types of value that the program does not use are `other`. -/
inductive Value where
  | string (text : Bytes)
  | hash (fields : Bytes → Option Bytes)
  | set (members : Finset Bytes)
  | other

/-- A `GET` option of `SORT`: the element itself, or a field of the hash whose key is
the element behind the given bytes. -/
inductive SortGet where
  | element
  | field (before name : Bytes)

/-- Commands and scripts, with the error reply that ends them. -/
abbrev Script (State : Type) := ExceptT Bytes (StateM State)

section Script

variable {State Result Other : Type}

def exec (script : Script State Result) (state : State) : Except Bytes Result × State :=
  script.run.run state

theorem exec_bind_ok {script : Script State Result} {state after : State} {result : Result}
    (done : exec script state = (.ok result, after)) (next : Result → Script State Other) :
    exec (script >>= next) state = exec (next result) after := by
  unfold exec at done ⊢
  rw [ExceptT.run_bind, StateT.run_bind, done]
  rfl

theorem exec_bind_error {script : Script State Result} {state after : State} {message : Bytes}
    (fails : exec script state = (.error message, after)) (next : Result → Script State Other) :
    exec (script >>= next) state = (.error message, after) := by
  unfold exec at fails ⊢
  rw [ExceptT.run_bind, StateT.run_bind, fails]
  rfl

end Script

/-- The number `INCR` starts from. -/
def counter (value : Option Value) (number : Nat) : Prop :=
  (value = none ∧ number = 0) ∨ value = some (.string (decimal number))

/-- The hash `HSET` adds to. -/
def hashOf (value : Option Value) (fields : Bytes → Option Bytes) : Prop :=
  (value = none ∧ fields = fun _ => none) ∨ value = some (.hash fields)

/-- The set `SADD` and `SREM` change and `SORT` lists. -/
def setOf (value : Option Value) (members : Finset Bytes) : Prop :=
  (value = none ∧ members = ∅) ∨ value = some (.set members)

/-- A key never holds an empty set. -/
def setValue (members : Finset Bytes) : Option Value :=
  if members = ∅ then none else some (.set members)

theorem set_of_set_value (members : Finset Bytes) : setOf (setValue members) members := by
  unfold setOf setValue
  split_ifs with empty
  · exact .inl ⟨rfl, empty⟩
  · exact .inr rfl

def setFields (fields : Bytes → Option Bytes) (pairs : List (Bytes × Bytes)) :
    Bytes → Option Bytes :=
  pairs.foldl (fun fields pair => Function.update fields pair.1 (some pair.2)) fields

/-- What a `GET` option yields for one element. -/
def sortGet (keys : Bytes → Option Value) (element : Bytes) : SortGet → Reply
  | .element => .string element
  | .field before name =>
      match keys (before ++ element) with
      | some (.hash fields) => (fields name).elim .nil .string
      | _ => .nil

structure RedisServer (State : Type) where
  keys : State → Bytes → Option Value
  incr : Bytes → Script State Nat
  hset : Bytes → List (Bytes × Bytes) → Script State Nat
  hget : Bytes → Bytes → Script State (Option Bytes)
  sadd : Bytes → Bytes → Script State Nat
  srem : Bytes → Bytes → Script State Nat
  keyExists : Bytes → Script State Nat
  del : Bytes → Script State Nat
  sort : Bytes → List SortGet → Script State (List Reply)
  /-- The number is written back as a decimal numeral. -/
  incr_ok : ∀ state key number, counter (keys state key) number → number + 1 < 2 ^ 63 →
    ∃ after, exec (incr key) state = (.ok (number + 1), after) ∧
      keys after = Function.update (keys state) key (some (.string (decimal (number + 1))))
  /-- The numbers are 64-bit signed integers. -/
  incr_overflow : ∀ state key number, counter (keys state key) number → 2 ^ 63 ≤ number + 1 →
    ∃ message, exec (incr key) state = (.error message, state)
  hset_ok : ∀ state key fields pairs, hashOf (keys state key) fields →
    ∃ added after, exec (hset key pairs) state = (.ok added, after) ∧
      keys after = Function.update (keys state) key (some (.hash (setFields fields pairs)))
  hget_ok : ∀ state key fields name, hashOf (keys state key) fields →
    exec (hget key name) state = (.ok (fields name), state)
  sadd_ok : ∀ state key members member, setOf (keys state key) members →
    ∃ added after, exec (sadd key member) state = (.ok added, after) ∧
      keys after = Function.update (keys state) key (setValue (insert member members))
  srem_ok : ∀ state key members member, setOf (keys state key) members →
    ∃ removed after, exec (srem key member) state = (.ok removed, after) ∧
      keys after = Function.update (keys state) key (setValue (members.erase member))
  exists_ok : ∀ state key,
    exec (keyExists key) state = (.ok (if (keys state key).isSome then 1 else 0), state)
  del_ok : ∀ state key, ∃ removed after, exec (del key) state = (.ok removed, after) ∧
    keys after = Function.update (keys state) key none
  /-- `SORT key BY nosort`: the members come in some order. -/
  sort_ok : ∀ state key gets members, setOf (keys state key) members →
    ∃ order : List Bytes, order.Nodup ∧ (∀ member, member ∈ order ↔ member ∈ members) ∧
      exec (sort key gets) state =
        (.ok (order.flatMap fun element => gets.map (sortGet (keys state) element)), state)

end Aorta.Redis
