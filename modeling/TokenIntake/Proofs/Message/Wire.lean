import TokenIntake.Proofs.Json.Carries
import TokenIntake.Proofs.Message.Grammar

namespace TokenIntake

open Value

def Image.texts : Image → List Text
  | .svg data | .png data => [data]

def Logo.texts : Logo → List Text
  | .url link => [link]
  | .embedded image => image.texts

def Marketing.texts (m : Marketing) : List Text :=
  m.project.toList ++ m.description.toList ++ m.marketing.toList ++ m.logo.toList.flatMap Logo.texts

def Message.texts (m : Message) : List Text :=
  [m.name, m.symbol] ++ m.balances.map Allocation.address ++ m.mint.toList.map Minter.minter
    ++ m.marketing.toList.flatMap Marketing.texts

section Decoding

variable {α : Type} {form : Value → α → Prop} {es : Mapping} {name : Text}

theorem Mapping.mayGive_none (bound : es.field? name = some .null) : es.MayGive name form none := by
  rintro ⟨v, bound', real⟩
  rw [bound] at bound'
  cases bound'
  exact real rfl

theorem Mapping.mayGive_ofOption {wire : α → Value} {o : Option α} (bound : es.field? name = some (.ofOption wire o))
    (real : ∀ a, wire a ≠ .null) (gives : ∀ a, form (wire a) a) : es.MayGive name form o := by
  cases o with
  | none => exact mayGive_none bound
  | some a => exact ⟨wire a, bound, real a, gives a⟩

theorem Value.givesListOf_map {wire : α → Value} (gives : ∀ a, form (wire a) a) (as : List α) :
    GivesListOf form (.list (as.map wire)) as := by
  refine ⟨as.map wire, rfl, ?_⟩
  rw [List.forall₂_map_left_iff, List.forall₂_same]
  exact fun a _ => gives a

end Decoding

theorem Uint128.wire_gives (u : Uint128) : GivesAmount (.text u.text) u :=
  .inr ⟨u.text, rfl, u.text_isNumeral, Text.digitsValue_ofNat u.val⟩

theorem Value.text_gives (t : Text) : GivesText (.text t) t := .inl rfl

theorem Allocation.wire_gives (a : Allocation) : GivesAllocation a.wire a :=
  ⟨_, rfl, ⟨_, rfl, text_gives a.address⟩, _, rfl, a.amount.wire_gives⟩

theorem Minter.wire_gives (m : Minter) : GivesMinter m.wire m :=
  ⟨_, rfl, ⟨_, rfl, text_gives m.minter⟩, Mapping.mayGive_ofOption rfl (by simp) Uint128.wire_gives⟩

theorem Image.wire_gives (image : Image) : GivesImage image.wire image := by
  cases image with
  | svg data => exact ⟨_, rfl, ⟨_, rfl, by simp, text_gives data⟩, Mapping.mayGive_none rfl⟩
  | png data => exact ⟨_, rfl, Mapping.mayGive_none rfl, _, rfl, by simp, text_gives data⟩

theorem Logo.wire_gives (logo : Logo) : GivesLogo logo.wire logo := by
  cases logo with
  | url link => exact ⟨_, rfl, ⟨_, rfl, by simp, text_gives link⟩, Mapping.mayGive_none rfl⟩
  | embedded image =>
    have real : image.wire ≠ .null := by cases image <;> simp [Image.wire]
    exact ⟨_, rfl, Mapping.mayGive_none rfl, _, rfl, real, image.wire_gives⟩

theorem Marketing.wire_gives (m : Marketing) : GivesMarketing m.wire m := by
  have real : ∀ logo : Logo, logo.wire ≠ .null := by
    intro logo
    cases logo <;> simp [Logo.wire]
  have text : ∀ {es : Mapping} {name : Text} {o : Option Text}, es.field? name = some (.ofOption .text o) →
      es.MayGive name GivesText o := fun bound => Mapping.mayGive_ofOption bound (by simp) text_gives
  exact ⟨_, rfl, text rfl, text rfl, text rfl, Mapping.mayGive_ofOption rfl real Logo.wire_gives⟩

theorem Message.wire_gives {m : Message} (name : m.name.hasSurrogate = false)
    (symbol : m.symbol.hasSurrogate = false) : GivesMessage m.wire m :=
  ⟨_, rfl, ⟨_, rfl, text_gives m.name, name⟩, ⟨_, rfl, text_gives m.symbol, symbol⟩, ⟨_, rfl, rfl⟩,
    ⟨_, rfl, givesListOf_map Allocation.wire_gives m.balances⟩,
    Mapping.mayGive_ofOption rfl (by simp [Minter.wire]) Minter.wire_gives,
    Mapping.mayGive_ofOption rfl (by simp [Marketing.wire]) Marketing.wire_gives⟩

section Messages

variable (deep : Nat)

theorem Uint128.carries (u : Uint128) : Carries (.text u.text) [] deep := by
  refine ⟨.text u.text, wellKeyed_scalar _, Nat.zero_le _, ?_⟩
  have digits : ∀ c ∈ u.text, c.isSurrogate = false := by
    intro c inside
    have digit := Text.isDigit_of_mem_ofNat inside
    simp only [CodePoint.isDigit, CodePoint.isSurrogate, Bool.and_eq_true, Bool.and_eq_false_iff, decide_eq_true_eq,
      decide_eq_false_iff_not] at digit ⊢
    omega
  have whole : u.text.hasSurrogate = false := by simpa [Text.hasSurrogate] using digits
  exact whole

theorem Allocation.carries (a : Allocation) : Carries a.wire [a.address] (deep + 1) := by
  have fields := Carries.object (v := a.wire) rfl ["address", "amount"] rfl (by decide) (by decide)
    (.cons (carries_text a.address deep) (.cons (a.amount.carries deep) .nil))
  simpa using fields

theorem Minter.carries (m : Minter) : Carries m.wire [m.minter] (deep + 1) := by
  have cap := Carries.ofOption (Uint128.carries deep) m.cap
  have fields := Carries.object (v := m.wire) rfl ["minter", "cap"] rfl (by decide) (by decide)
    (.cons (carries_text m.minter deep) (.cons cap .nil))
  have noText : m.cap.toList.flatMap (fun _ => ([] : List Text)) = [] := by cases m.cap <;> rfl
  simpa [noText] using fields

theorem Image.carries (image : Image) : Carries image.wire image.texts (deep + 1) := by
  cases image with
  | svg data =>
    have fields := Carries.object (v := (Image.svg data).wire) rfl ["svg", "png"] rfl (by decide) (by decide)
      (.cons (carries_text data deep) (.cons (carries_null deep) .nil))
    exact fields
  | png data =>
    have fields := Carries.object (v := (Image.png data).wire) rfl ["svg", "png"] rfl (by decide) (by decide)
      (.cons (carries_null deep) (.cons (carries_text data deep) .nil))
    exact fields

theorem Logo.carries (logo : Logo) : Carries logo.wire logo.texts (deep + 2) := by
  cases logo with
  | url link =>
    have fields := Carries.object (v := (Logo.url link).wire) rfl ["url", "embedded"] rfl (by decide) (by decide)
      (.cons (carries_text link (deep + 1)) (.cons (carries_null (deep + 1)) .nil))
    exact fields
  | embedded image =>
    have fields := Carries.object (v := (Logo.embedded image).wire) rfl ["url", "embedded"] rfl (by decide)
      (by decide) (.cons (carries_null (deep + 1)) (.cons (image.carries deep) .nil))
    simpa [Logo.texts] using fields

theorem Marketing.carries (m : Marketing) : Carries m.wire m.texts (deep + 3) := by
  have text := fun o => Carries.ofOption (fun t => carries_text t (deep + 2)) o
  have logo := Carries.ofOption (Logo.carries deep) m.logo
  have fields := Carries.object (v := m.wire) rfl ["project", "description", "marketing", "logo"] rfl (by decide)
    (by decide) (.cons (text m.project) (.cons (text m.description) (.cons (text m.marketing) (.cons logo .nil))))
  simpa [Marketing.texts] using fields

theorem Message.carries (m : Message) : Carries m.wire m.texts (deep + 4) := by
  have short : (m.decimals.val : Int).natAbs < 10 ^ maxIntDigits := by
    have bound : (m.decimals.val : Int).natAbs < 10 ^ 3 := by
      have small := m.decimals.isLt
      omega
    exact Nat.lt_of_lt_of_le bound (Nat.pow_le_pow_right (by decide) (by decide))
  have decimals : Carries (.int m.decimals.val) [] (deep + 3) := ⟨.int short, wellKeyed_scalar _, Nat.zero_le _, rfl⟩
  have balances := Carries.list (Allocation.carries (deep + 1)) m.balances
  have mint := Carries.ofOption (Minter.carries (deep + 2)) m.mint
  have marketing := Carries.ofOption (Marketing.carries deep) m.marketing
  have fields := Carries.object (v := m.wire) rfl
    ["name", "symbol", "decimals", "initial_balances", "mint", "marketing"] rfl (by decide) (by decide)
    (.cons (carries_text m.name _) (.cons (carries_text m.symbol _) (.cons decimals (.cons balances
      (.cons mint (.cons marketing .nil))))))
  simpa [Message.texts, List.map_eq_flatMap] using fields

end Messages

theorem Message.decodeText_wire {m : Message} (name : m.name.hasSurrogate = false)
    (symbol : m.symbol.hasSurrogate = false) (whole : ∀ t ∈ m.texts, t.hasSurrogate = false) :
    ∃ t, Wire.text? m.wire = some t ∧ Wire.decodeText Message.decode t = .good m := by
  have carries := m.carries 0
  have noSurrogate : m.wire.hasSurrogate = false := by
    rw [carries.surrogates, List.any_eq_false]
    intro t inside
    simp [whole t inside]
  have shallow := carries.shallow
  have written := Json.parseWritten_compact carries.exact (Nat.lt_of_le_of_lt shallow (by decide))
  refine ⟨Json.compact Json.rawString m.wire, by simp [Wire.text?, noSurrogate], ?_⟩
  have notDeep : ¬Wire.maxDepth < m.wire.depth := by
    have limit : Wire.maxDepth = 200 := rfl
    omega
  simp only [Wire.decodeText, written, noSurrogate, notDeep, decide_false, Bool.or_self, Bool.false_eq_true, if_false,
    Json.settled_of_wellKeyed carries.exact carries.keyed]
  exact (decode_reads m.wire m).mpr (wire_gives name symbol)

/-- The wire form of a message that was decoded gives it back, as data and as text; there is text unless
something in the message is no UTF-8. -/
theorem wire_roundTrips {v : Value} {m : Message} (decoded : Message.decode v = .good m) :
    Message.decode m.wire = .good m ∧
      ((∀ t ∈ m.texts, t.hasSurrogate = false) →
        ∃ t, Wire.text? m.wire = some t ∧ Wire.decodeText Message.decode t = .good m) ∧
      ((∃ t ∈ m.texts, t.hasSurrogate = true) → Wire.text? m.wire = none) := by
  obtain ⟨name, symbol⟩ := Message.whole_of_decode decoded
  refine ⟨(Message.decode_reads m.wire m).mpr (Message.wire_gives name symbol),
    Message.decodeText_wire name symbol, fun broken => ?_⟩
  have surrogate : m.wire.hasSurrogate = true := by
    rw [(m.carries 0).surrogates, List.any_eq_true]
    exact broken
  simp [Wire.text?, surrogate]

def cappedMessage : Message where
  name := "test token"
  symbol := "TNT"
  decimals := ⟨6, by decide⟩
  balances := [⟨"first", ⟨340282366920938463463374607431768211455, by decide⟩⟩, ⟨"\n\"é", ⟨0, by decide⟩⟩]
  mint := some ⟨"minter", some ⟨7, by decide⟩⟩
  marketing := some ⟨none, some "about", none, some (.embedded (.png "data"))⟩

def capped : Value :=
  .map [(.text "name", .text "test token"), (.text "symbol", .text "TNT"), (.text "decimals", .int 6),
    (.text "initial_balances", .list [
      .map [(.text "address", .text "first"), (.text "amount", .int 340282366920938463463374607431768211455)],
      .map [(.text "amount", .text "000"), (.text "address", .text "\n\"é")]]),
    (.text "mint", .map [(.text "minter", .text "minter"), (.text "cap", .text "07")]),
    (.text "marketing", .map [(.text "description", .text "about"),
      (.text "logo", .map [(.text "embedded", .map [(.text "png", .text "data")])])])]

def brokenMessage : Message := { cappedMessage with balances := [⟨[⟨0xD800, by decide⟩], ⟨1, by decide⟩⟩] }

theorem wire_roundTrips_capped :
    (Message.decode capped = .good cappedMessage ∧ (∀ t ∈ cappedMessage.texts, t.hasSurrogate = false) ∧
      ∃ t, Wire.text? cappedMessage.wire = some t ∧ Wire.decodeText Message.decode t = .good cappedMessage) ∧
    (Message.decode brokenMessage.wire = .good brokenMessage ∧ (∃ t ∈ brokenMessage.texts, t.hasSurrogate = true) ∧
      Wire.text? brokenMessage.wire = none) := by
  have decoded : Message.decode capped = .good cappedMessage := by decide +kernel
  have whole : ∀ t ∈ cappedMessage.texts, t.hasSurrogate = false := by decide +kernel
  have decodedBroken : Message.decode brokenMessage.wire = .good brokenMessage := by decide +kernel
  have broken : ∃ t ∈ brokenMessage.texts, t.hasSurrogate = true := by decide +kernel
  exact ⟨⟨decoded, whole, (wire_roundTrips decoded).2.1 whole⟩, decodedBroken, broken,
    (wire_roundTrips decodedBroken).2.2 broken⟩

end TokenIntake
