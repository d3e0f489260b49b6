import SerialFrame.IdMap
import SerialFrame.Token.Basic

/-!
# Token tables

A table finds tokens by the ids that segments use. A token put in or read from a file stands under
its own id; only a later change of the token itself can make the two differ.
-/

namespace SerialFrame

structure TokenTable where
  byId : IdMap Token
  deriving DecidableEq

namespace TokenTable

def empty : TokenTable := ⟨.empty⟩

instance : Inhabited TokenTable := ⟨empty⟩

def get? (t : TokenTable) (id : TokenId) : Option Token :=
  t.byId.get? id

def contains (t : TokenTable) (id : TokenId) : Bool :=
  t.byId.contains id

def insert (t : TokenTable) (token : Token) : TokenTable :=
  ⟨t.byId.insert token.id token⟩

def remove (t : TokenTable) (id : TokenId) : TokenTable :=
  ⟨t.byId.erase id⟩

def modify (t : TokenTable) (id : TokenId) (f : Token → Token) : TokenTable :=
  ⟨t.byId.modify id f⟩

/-- The table of the given tokens; of several with one id the last counts. -/
def ofTokens (tokens : List Token) : TokenTable :=
  tokens.foldl insert empty

/-- The table with the given tokens under the given ids, which they take as their own. -/
def ofEntries (entries : List (TokenId × Token)) : TokenTable :=
  ⟨(IdMap.ofList entries).mapValues fun id token => { token with id }⟩

def tokens (t : TokenTable) : List Token :=
  t.byId.values

def size (t : TokenTable) : Nat :=
  t.byId.size

def isEmpty (t : TokenTable) : Bool :=
  t.byId.isEmpty

def containers (t : TokenTable) : List Token :=
  t.tokens.filter fun token => token.children?.isSome

def containerIds (t : TokenTable) : List TokenId :=
  t.containers.map (·.id)

def container? (t : TokenTable) (id : TokenId) : Option Template :=
  (t.get? id).bind Token.children?

/-- Every token is found by its own id. -/
def Keyed (t : TokenTable) : Prop :=
  ∀ entry ∈ t.byId.entries, entry.2.id = entry.1

end TokenTable

end SerialFrame
