namespace Authorization

variable {κ β : Type}

/-- Entries by key, in ascending order when built by `alter` alone. -/
abbrev KeyedList (κ β : Type) := List (κ × β)

namespace KeyedList

/-- Sets what stands under a key to a function of what stands there now. -/
def alter [LT κ] [DecidableLT κ] [DecidableEq κ] (key : κ) (update : Option β → β) :
    KeyedList κ β → KeyedList κ β
  | [] => [(key, update none)]
  | entry :: entries =>
    if key < entry.1 then (key, update none) :: entry :: entries
    else if key = entry.1 then (key, update (some entry.2)) :: entries
    else entry :: alter key update entries

def insert [LT κ] [DecidableLT κ] [DecidableEq κ] (key : κ) (value : β) (entries : KeyedList κ β) :
    KeyedList κ β :=
  entries.alter key fun _ => value

end KeyedList

end Authorization
