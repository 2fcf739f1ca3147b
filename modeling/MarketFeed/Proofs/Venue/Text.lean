import MarketFeed.Proofs.Frame
import MarketFeed.Venue.Basic

namespace MarketFeed

/-!
# Commands as texts

* `joinCommas_eq_intercalate` — texts with commas between them.
* `append_ne_of_not_isPrefix` — texts that begin differently.
* `Frame.opening`, `Frame.closing` — what stands around the value of one member of a frame.
* `Frame.text_eq` — a frame is the value with these texts around it.
* `Venue.head`, `Venue.tail`, `Venue.frame_text` — a batched command is the array of its topics with
  two fixed texts around it.
* `huobiHead`, `huobiTail`, `huobiFrame_text` — a command of Huobi is its topic with one of two pairs
  of texts around it; `huobi_text_inj` tells them apart.
-/

open Json

/-! ### Commas -/

/-- Texts with commas between them, as the library joins them. -/
theorem Json.joinCommas_eq_intercalate (texts : List String) :
    joinCommas texts = String.intercalate "," texts := by
  induction texts with
  | nil => rfl
  | cons t ts ih =>
    cases ts with
    | nil => rw [joinCommas_singleton, String.intercalate_singleton]
    | cons u us => rw [joinCommas_cons_cons, String.intercalate_cons_cons, ih]

/-- A text among others, with the commas that part it from them. -/
theorem Json.joinCommas_append_cons (before : List String) (t : String) (after : List String) :
    joinCommas (before ++ t :: after) =
      String.join (before.map (· ++ ",")) ++ t ++ String.join (after.map ("," ++ ·)) := by
  induction before with
  | nil =>
    -- the texts behind are the same as in a list that begins with one of them
    rw [List.nil_append, List.map_nil, String.join_nil, String.empty_append]
    induction after generalizing t with
    | nil => rw [joinCommas_singleton, List.map_nil, String.join_nil, String.append_empty]
    | cons u us ih =>
      rw [joinCommas_cons_cons, ih, List.map_cons, String.join_cons, String.append_assoc,
        String.append_assoc]
  | cons u us ih =>
    have hne : us ++ t :: after ≠ [] := by simp
    rw [List.cons_append, joinCommas_eq_intercalate, String.intercalate_cons_of_ne_nil hne,
      ← joinCommas_eq_intercalate, ih, List.map_cons, String.join_cons]
    simp only [String.append_assoc]

/-! ### Texts that begin differently -/

/-- Texts differ if they begin with words neither of which begins the other. -/
theorem append_ne_of_not_isPrefix {a b : String} (hab : ¬ a.toList <+: b.toList)
    (hba : ¬ b.toList <+: a.toList) (x y : String) : a ++ x ≠ b ++ y := by
  intro h
  have hchars : a.toList ++ x.toList = b.toList ++ y.toList := by
    simpa using congrArg String.toList h
  have ha : a.toList <+: b.toList ++ y.toList := hchars ▸ List.prefix_append _ _
  have hb : b.toList <+: b.toList ++ y.toList := List.prefix_append _ _
  exact (List.prefix_or_prefix_of_prefix ha hb).elim hab hba

/-! ### Frames around one value -/

/-- What a member writes before its value. -/
def Member.label (m : Member) : String :=
  (if m.spaceBefore then " " else "") ++ "\"" ++ m.name ++ "\":"
    ++ (if m.spaceAfter then " " else "")

/-- A member is its label and its value. -/
theorem Member.text_eq (m : Member) : m.text = m.label ++ m.value.text := rfl

/-- What stands in a frame before the value of a member. -/
def Frame.opening (before : List Member) (m : Member) : String :=
  "\x7b" ++ String.join (before.map (·.text ++ ",")) ++ m.label

/-- What stands in a frame behind the value of a member. -/
def Frame.closing (after : List Member) : String :=
  String.join (after.map ("," ++ ·.text)) ++ "\x7d"

/-- A frame is the value of one of its members with the texts around it. -/
theorem Frame.text_eq (before : List Member) (m : Member) (after : List Member) :
    Frame.text { members := before ++ m :: after } =
      Frame.opening before m ++ m.value.text ++ Frame.closing after := by
  rw [Frame.text, List.map_append, List.map_cons, joinCommas_append_cons, Member.text_eq,
    Frame.opening, Frame.closing, List.map_map, List.map_map]
  simp only [String.append_assoc]
  rfl

/-- A frame that sets a text between quotes is that text with two others around it, whatever text it
    is. -/
theorem Frame.text_of_splice (before : List Member) (m : Member) (after : List Member)
    (text : String) :
    Frame.text { members := before ++ { m with value := .spliced text } :: after } =
      (Frame.opening before m ++ "\"") ++ text ++ ("\"" ++ Frame.closing after) := by
  refine (Frame.text_eq before _ after).trans ?_
  rw [Cell.text]
  simp only [String.append_assoc]
  rfl

/-! ### Batched commands -/

/-- What stands in a batched command before the topics. -/
def Venue.head (v : Venue) (subscribe : Bool) : String :=
  match v with
  | .binance =>
      "\x7b\"id\":9527, \"method\":\"" ++ (if subscribe then "SUBSCRIBE" else "UNSUBSCRIBE")
        ++ "\",\"params\":"
  | .bitmex | .bybit => "\x7b\"op\":\"" ++ subscribeVerb subscribe ++ "\", \"args\":"
  | .deribit =>
      "\x7b\"method\":\"public/" ++ subscribeVerb subscribe ++ "\", \"params\":\x7b\"channels\":"
  | _ => "\x7b\"op\":\"" ++ subscribeVerb subscribe ++ "\",\"args\":"

/-- What stands in a batched command behind the topics. -/
def Venue.tail (v : Venue) : String :=
  match v with
  | .deribit => "\x7d\x7d"
  | _ => "\x7d"

/-- An array is written as its items with commas between them. -/
theorem Json.compact_array (items : List Json) :
    compact (.array items) = "[" ++ String.intercalate "," (items.map compact) ++ "]" := by
  rw [compact, compactItems_eq_map, joinCommas_eq_intercalate]

/-- An object of one member is written as the member between brackets. -/
theorem Json.compact_object_singleton (name : String) (v : Json) :
    compact (.object [(name, v)]) = "\x7b" ++ quote name ++ ":" ++ v.compact ++ "\x7d" := by
  rw [compact, compactMembers, compactMembers, joinCommas_singleton]
  simp only [String.append_assoc]

/-- A frame whose last member holds some topics is their array with two texts around it.  What stands
    before a value does not look at it, so any other value will do to find it. -/
theorem Frame.text_of_topics (before : List Member) (name : String) (spaceBefore : Bool)
    {head : String} (hhead : Frame.opening before { name, value := default, spaceBefore } = head)
    (topics : List Json) :
    Frame.text { members := before ++ [{ name, value := .json (.array topics), spaceBefore }] } =
      head ++ compact (.array topics) ++ "\x7d" := by
  have hclosing : Frame.closing [] = "\x7d" := by decide +kernel
  exact (Frame.text_eq before _ []).trans
    (congrArg₂ (· ++ compact (.array topics) ++ ·) hhead hclosing)

/-- **A batched command is the array of its topics** with two texts around it that depend on the
    venue and the direction alone. -/
theorem Venue.frame_text {v : Venue} {format : Batched} (h : v.format = .batched format)
    (subscribe : Bool) (topics : List Json) :
    (format.frame subscribe topics).text =
      v.head subscribe ++ compact (.array topics) ++ v.tail := by
  cases v <;> cases h
  case binance =>
    exact Frame.text_of_topics [_, _] "params" false (by cases subscribe <;> decide +kernel) topics
  case bitmex | bybit =>
    exact Frame.text_of_topics [_] "args" true (by cases subscribe <;> decide +kernel) topics
  case okex | okx =>
    exact Frame.text_of_topics [_] "args" false (by cases subscribe <;> decide +kernel) topics
  case deribit =>
    -- the array lies one object deeper, whose brackets belong to the texts around it
    have hopening : Frame.opening [Member.word "method" ("public/" ++ subscribeVerb subscribe)]
        { name := "params", value := default, spaceBefore := true }
        ++ ("\x7b" ++ quote "channels" ++ ":") = Venue.head .deribit subscribe := by
      cases subscribe <;> decide +kernel
    have hclosing : "\x7d" ++ Frame.closing [] = Venue.tail .deribit := by decide +kernel
    have htext := Frame.text_eq [Member.word "method" ("public/" ++ subscribeVerb subscribe)]
      { name := "params", value := .json (.object [("channels", .array topics)]), spaceBefore := true }
      []
    rw [Cell.text, compact_object_singleton] at htext
    rw [← hopening, ← hclosing]
    refine htext.trans ?_
    simp only [String.append_assoc]
    rfl

/-! ### Commands of Huobi -/

/-- The topic ends in the channel of incremental updates. -/
def isHuobiIncremental (topic : String) : Bool := huobiIncremental.toList.isSuffixOf topic.toList

/-- What stands before the topic in a command of Huobi, which is spaced if it asks for increments. -/
def huobiHead (subscribe spaced : Bool) : String :=
  "\x7b\"" ++ huobiFrame.verb subscribe ++ "\":" ++ (if spaced then " " else "") ++ "\""

/-- What stands behind the topic. -/
def huobiTail (spaced : Bool) : String :=
  if spaced then "\",\"data_type\":\"incremental\",\"id\": \"crypto-ws-client\"\x7d"
  else "\",\"id\":\"crypto-ws-client\"\x7d"

/-- **A command of Huobi is its topic** with two texts around it, which depend on how the topic
    ends. -/
theorem huobiFrame_text (subscribe : Bool) (topic : String) :
    (huobiFrame subscribe topic).text = huobiHead subscribe (isHuobiIncremental topic) ++ topic
      ++ huobiTail (isHuobiIncremental topic) := by
  let topicMember : Member := Member.splice (huobiFrame.verb subscribe) ""
  rw [isHuobiIncremental]
  unfold huobiFrame
  split
  · rename_i hincremental
    have hhead : Frame.opening [] topicMember.loose ++ "\"" = huobiHead subscribe true := by
      cases subscribe <;> decide +kernel
    have htail : "\"" ++ Frame.closing [Member.word "data_type" "incremental",
        (Member.word "id" huobiFrame.client).loose] = huobiTail true := by
      decide +kernel
    refine (Frame.text_of_splice [] topicMember.loose _ topic).trans ?_
    rw [hhead, htail, hincremental]
  · rename_i hplain
    have hhead : Frame.opening [] topicMember ++ "\"" = huobiHead subscribe false := by
      cases subscribe <;> decide +kernel
    have htail : "\"" ++ Frame.closing [Member.word "id" huobiFrame.client] = huobiTail false := by
      decide +kernel
    refine (Frame.text_of_splice [] topicMember _ topic).trans ?_
    rw [hhead, htail, Bool.eq_false_iff.mpr hplain]

/-- A text tells which of the two ways it is written in, and its topic. -/
theorem huobi_text_inj {subscribe spaced spaced' : Bool} {topic topic' : String}
    (h : huobiHead subscribe spaced ++ topic ++ huobiTail spaced =
      huobiHead subscribe spaced' ++ topic' ++ huobiTail spaced') :
    spaced = spaced' ∧ topic = topic' := by
  by_cases hspaced : spaced = spaced'
  · rw [hspaced, String.append_left_inj, String.append_right_inj] at h
    exact ⟨hspaced, h⟩
  · -- a blank, or none, stands before the topic
    have hbegin : ∀ spaced spaced', spaced ≠ spaced' →
        ¬ (huobiHead subscribe spaced).toList <+: (huobiHead subscribe spaced').toList := by
      cases subscribe <;> decide +kernel
    rw [String.append_assoc, String.append_assoc] at h
    exact absurd h
      (append_ne_of_not_isPrefix (hbegin _ _ hspaced) (hbegin _ _ (Ne.symm hspaced)) _ _)

/-- A command of Huobi tells its topic. -/
theorem huobiFrame_inj {subscribe : Bool} {topic topic' : String}
    (h : (huobiFrame subscribe topic).text = (huobiFrame subscribe topic').text) :
    topic = topic' := by
  rw [huobiFrame_text, huobiFrame_text] at h
  exact (huobi_text_inj h).2

end MarketFeed
