import Signet.Hash.Mac

/-! The signing algorithms, all of them keyed digests. -/

namespace Signet

/-- A keyed digest that signs tokens. -/
inductive Algorithm where
  | hs256
  | hs384
  | hs512
  deriving DecidableEq, Repr

namespace Algorithm

/-- The name of an algorithm in settings and token headers. -/
def name : Algorithm → String
  | hs256 => "HS256"
  | hs384 => "HS384"
  | hs512 => "HS512"

/-- The algorithm of a name. -/
def ofName? (name : String) : Option Algorithm :=
  [hs256, hs384, hs512].find? (·.name = name)

/-- The hash function under the key. -/
def hash : Algorithm → Hash.Function
  | hs256 => ⟨64, Hash.sha256⟩
  | hs384 => ⟨128, Hash.sha384⟩
  | hs512 => ⟨128, Hash.sha512⟩

/-- The tag of a message under a key. -/
def mac (algorithm : Algorithm) (key message : Bytes) : Bytes := algorithm.hash.mac key message

@[simp] theorem ofName?_name (algorithm : Algorithm) : ofName? algorithm.name = some algorithm := by
  cases algorithm <;> decide

theorem name_of_ofName? {name : String} {algorithm : Algorithm}
    (found : ofName? name = some algorithm) : algorithm.name = name := by
  simpa using List.find?_some found

theorem mac_ne_nil (algorithm : Algorithm) (key message : Bytes) :
    algorithm.mac key message ≠ [] := by
  intro empty
  have length := congrArg List.length empty
  cases algorithm <;> simp [mac, Hash.Function.mac, hash] at length

end Algorithm
end Signet
