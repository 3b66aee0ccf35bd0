import Depot.Record

/-!
# Who is logged in

A `Login` is what is known about the person on whose behalf requests are sent.  Several parts of a program
share one login through handles: whoever has a handle sees what was set last through any handle of the same
login.
-/

namespace Depot

/-- The token of a session and the record of its user. -/
structure Login where
  token : Option String
  user : Option Record
  deriving DecidableEq

namespace Login

/-- Nobody is logged in. -/
def anonymous : Login := ⟨none, none⟩

instance : Inhabited Login := ⟨anonymous⟩

/-- The holder of a token. -/
def ofToken (token : Option String) : Login := ⟨token, none⟩

end Login

/-- A handle of a login. -/
structure LoginHandle where
  number : Nat
  deriving DecidableEq

/-- The logins that are shared. -/
structure Logins where
  /-- Handle number `n` is for the `n`-th of them. -/
  shared : List Login
  deriving DecidableEq

namespace Logins

def empty : Logins := ⟨[]⟩

/-- Share one more login. -/
def add (l : Logins) (login : Login) : LoginHandle × Logins :=
  (⟨l.shared.length⟩, ⟨l.shared ++ [login]⟩)

/-- The login of a handle. -/
def get (l : Logins) (h : LoginHandle) : Login := l.shared.getD h.number .anonymous

/-- Log somebody else in. -/
def set (l : Logins) (h : LoginHandle) (login : Login) : Logins := ⟨l.shared.set h.number login⟩

/-- Log out. -/
def clear (l : Logins) (h : LoginHandle) : Logins := l.set h .anonymous

end Logins

end Depot
