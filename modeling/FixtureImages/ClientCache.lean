import FixtureImages.Failure

/-!
# The cached client

The connection to the daemon is made when it is first asked for, and kept until it is dropped.
-/

namespace FixtureImages

set_option autoImplicit false

/-- The client, and how many times one was asked for. -/
structure ClientCache (Client : Type) where
  client : Option Client
  attempts : Nat

namespace ClientCache

variable {Client : Type}

def empty : ClientCache Client := ⟨none, 0⟩

/-- The cached client, or a new one. `connect` is told how many attempts came before. -/
def get (connect : Nat → Except Failure Client) (cache : ClientCache Client) :
    Except Failure Client × ClientCache Client :=
  match cache.client with
  | some client => (.ok client, cache)
  | none =>
      match connect cache.attempts with
      | .ok client => (.ok client, ⟨some client, cache.attempts + 1⟩)
      | .error failure => (.error failure, ⟨none, cache.attempts + 1⟩)

def reset (cache : ClientCache Client) : ClientCache Client := { cache with client := none }

end ClientCache

end FixtureImages
