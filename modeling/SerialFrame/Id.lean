/-!
# Ids

Tokens and segments are named by texts. Token ids are ordered as texts are, by code points.
-/

namespace SerialFrame

structure TokenId where
  text : String
  deriving DecidableEq, Repr, Inhabited

structure SegmentId where
  text : String
  deriving DecidableEq, Repr, Inhabited

namespace TokenId

instance : LT TokenId := ⟨fun a b => a.text < b.text⟩

instance (a b : TokenId) : Decidable (a < b) :=
  inferInstanceAs (Decidable (a.text < b.text))

theorem lt_irrefl (a : TokenId) : ¬ a < a :=
  String.lt_irrefl a.text

theorem lt_trans {a b c : TokenId} (hab : a < b) (hbc : b < c) : a < c :=
  String.lt_trans (a := a.text) hab hbc

theorem eq_of_not_lt {a b : TokenId} (hab : ¬ a < b) (hba : ¬ b < a) : a = b := by
  cases a
  cases b
  exact congrArg _ (String.le_antisymm hba hab)

end TokenId

end SerialFrame
