/-
  RecordSearch.Proofs.Json.Text
  ─────────────────────────────
  **A tree is read back from its text.**

  Reading goes over the tokens of a text with a stack of what is open.  Over the text of a value it
  leaves the stack as it found it, with the value complete; so values next to each other fill the
  array or the object that is open, and the whole text comes to the whole tree.

      Reads text rest r r'        — reading goes over the text from one state to another
      Stops text r                — reading stops somewhere in the text
      Faithful j                  — nothing in the tree is lost in its text
      depth j                     — how many arrays and objects of the tree lie in each other
      Faithful.read_write         — the text of such a tree is read as the tree
      Faithful.read_write_deep    — unless too many of them are open at once; then it is refused

  Lost are numbers that are not finite, which are written as null, integers that 64 bits do not
  hold, and of members with one name all but the last.
-/
import RecordSearch.Proofs.Json.Tokens

namespace RecordSearch

/-- **The number is read back as it was written**: it is finite, and the reader of numbers takes
its whole text and comes to the same bits.  Digits are scaled in floating point, so this is said of
one number at a time. -/
structure Binary64.ReadsBack (x : Binary64) : Prop where
  isFinite : x.isFinite = true
  numberAt : Json.numberAt (NumberStyle.interchange.write x).toList = some (.float x, [])

namespace Json

/-! ## §1. Reading over a text. -/

/-- In front of the rest, reading goes over the text from one state to another. -/
def Reads (text rest : List Char) (r r' : Reading) : Prop :=
  ∃ ts, Cuts text ts rest ∧ ts.foldlM Reading.step r = some r'

theorem Reads.append {a b rest : List Char} {r r' r'' : Reading} (ha : Reads a (b ++ rest) r r')
    (hb : Reads b rest r' r'') : Reads (a ++ b) rest r r'' := by
  obtain ⟨ts, hts, hread⟩ := ha
  obtain ⟨us, hus, hread'⟩ := hb
  refine ⟨ts ++ us, hts.append hus, ?_⟩
  rw [List.foldlM_append, hread]
  exact hread'

theorem Cuts.reads {text rest : List Char} {t : Token} {r r' : Reading} (h : Cuts text [t] rest)
    (hstep : r.step t = some r') : Reads text rest r r' := by
  refine ⟨[t], h, ?_⟩
  rw [List.foldlM_cons, hstep]
  rfl

/-- Reading stops somewhere in the text. -/
def Stops (text : List Char) (r : Reading) : Prop :=
  ∃ front back ts, text = front ++ back ∧ Cuts front ts back ∧ ts.foldlM Reading.step r = none

theorem Cuts.stops {text rest : List Char} {t : Token} {r : Reading} (h : Cuts text [t] rest)
    (hstep : r.step t = none) : Stops (text ++ rest) r := by
  refine ⟨text, rest, [t], rfl, h, ?_⟩
  rw [List.foldlM_cons, hstep]
  rfl

theorem Reads.stops {text rest : List Char} {r r' : Reading} (h : Reads text rest r r')
    (hstops : Stops rest r') : Stops (text ++ rest) r := by
  obtain ⟨ts, hts, hread⟩ := h
  obtain ⟨front, back, us, rfl, hus, hstops⟩ := hstops
  refine ⟨text ++ front, back, ts ++ us, (List.append_assoc ..).symm, hts.append hus, ?_⟩
  rw [List.foldlM_append, hread]
  exact hstops

/-- A text in which reading stops stands for nothing, whatever is behind the place. -/
theorem Stops.read_eq_none {text : String} (h : Stops text.toList ⟨.value, []⟩) :
    read text = none := by
  obtain ⟨front, back, ts, htext, hts, hstops⟩ := h
  obtain ⟨steps, -, htokens⟩ := hts text.length
    (Nat.le_of_eq (by rw [← htext, String.length_toList]))
  rw [read, htext, htokens]
  cases tokens steps back with
  | none => rfl
  | some us =>
      show ((ts ++ us).foldlM Reading.step ⟨.value, []⟩).bind _ = _
      rw [List.foldlM_append, hstops]
      rfl

/-- Where reading over a text that is all there is leaves a complete value and nothing open, that
is what the text stands for. -/
theorem Reads.read_eq {text : String} {j : Json}
    (h : Reads text.toList [] ⟨.value, []⟩ ⟨.complete j, []⟩) : read text = some j := by
  obtain ⟨ts, hts, hread⟩ := h
  rw [read, ← String.length_toList, hts.tokens_eq]
  show (ts.foldlM Reading.step ⟨.value, []⟩).bind _ = _
  rw [hread]
  rfl

/-- The first item of an array is read like any value: it cannot be the end of the array. -/
theorem Reads.firstItem {text rest : List Char} {j : Json} {frames : List Frame}
    (h : Reads text rest ⟨.value, .item [] :: frames⟩ ⟨.complete j, .item [] :: frames⟩) :
    Reads text rest ⟨.firstItem, frames⟩ ⟨.complete j, .item [] :: frames⟩ := by
  obtain ⟨ts, hts, hread⟩ := h
  refine ⟨ts, hts, ?_⟩
  cases ts with
  | nil => cases hread
  | cons t ts =>
      rw [List.foldlM_cons] at hread ⊢
      cases t with
      | closeArray => cases hread
      | _ => exact hread

mutual

/-- **How many arrays and objects of the tree lie in each other.** -/
def depth : Json → Nat
  | .array items => depthOfItems items + 1
  | .object members => depthOfMembers members + 1
  | _ => 0

/-- The depth of the deepest item. -/
def depthOfItems : List Json → Nat
  | [] => 0
  | j :: js => max j.depth (depthOfItems js)

/-- The depth of the deepest member. -/
def depthOfMembers : List (String × Json) → Nat
  | [] => 0
  | (_, j) :: members => max j.depth (depthOfMembers members)

end

/-- Over the text of the value, reading comes to the value, if what is open leaves room for it. -/
def ReadsBack (j : Json) : Prop :=
  ∀ frames rest, Ends rest → frames.length + j.depth ≤ maxDepth →
    Reads j.write.toList rest ⟨.value, frames⟩ ⟨.complete j, frames⟩

/-- Brackets are read as they are where a value starts. -/
def Opens (r : Reading) (frames : List Frame) : Prop :=
  r.step .openArray = Reading.start? frames .openArray ∧
    r.step .openObject = Reading.start? frames .openObject

/-- In the text of the value reading stops, if what is open leaves no room for it. -/
def Refused (j : Json) : Prop :=
  ∀ frames rest r, Ends rest → Opens r frames → frames.length ≤ maxDepth →
    maxDepth < frames.length + j.depth → Stops (j.write.toList ++ rest) r

/-- A character that is a token by itself. -/
theorem reads_mark {c : Char} {t : Token} {rest : List Char} {r r' : Reading}
    (hspace : isSpace c = false) (hat : ∀ cs, tokenAt c cs = some (t, cs))
    (hstep : r.step t = some r') : Reads [c] rest r r' :=
  Cuts.reads (.token hspace (hat _)) hstep

/-! ## §2. Arrays. -/

/-- The first text, then each behind a comma. -/
theorem toList_intercalate_cons (t : String) (ts : List String) :
    (",".intercalate (t :: ts)).toList = t.toList ++ ts.flatMap fun t => ',' :: t.toList := by
  induction ts generalizing t with
  | nil => rw [String.intercalate_singleton, List.flatMap_nil, List.append_nil]
  | cons u ts ih =>
      rw [String.intercalate_cons_cons, String.toList_append, String.toList_append, ih,
        List.flatMap_cons, List.append_assoc]
      rfl

theorem writeItems_eq_map (items : List Json) : writeItems items = items.map write := by
  induction items with
  | nil => rfl
  | cons j items ih => rw [writeItems, ih, List.map_cons]

/-- The text of items behind a first one, with the end of their array. -/
def itemsBehind (items : List Json) : List Char :=
  (items.flatMap fun j => ',' :: j.write.toList) ++ [']']

theorem toList_write_array (j : Json) (items : List Json) :
    (write (.array (j :: items))).toList = ['['] ++ (j.write.toList ++ itemsBehind items) := by
  rw [write, writeItems_eq_map, List.map_cons, String.toList_append, String.toList_append,
    toList_intercalate_cons, List.flatMap_map, List.append_assoc, List.append_assoc]
  rfl

theorem ends_itemsBehind (items : List Json) (rest : List Char) :
    Ends (itemsBehind items ++ rest) := by
  intro c hc
  cases items with
  | nil => exact .inr (.inl (Option.some.inj hc).symm)
  | cons j items => exact .inl (Option.some.inj hc).symm

theorem itemsBehind_cons (j : Json) (items : List Json) :
    itemsBehind (j :: items) = [','] ++ (j.write.toList ++ itemsBehind items) := by
  simp [itemsBehind]

/-- Over the items behind a first one, reading comes to the array. -/
theorem reads_itemsBehind (frames : List Frame) (rest : List Char) {items : List Json}
    (h : ∀ j ∈ items, j.ReadsBack) (hdepth : frames.length + 1 + depthOfItems items ≤ maxDepth)
    (before : List Json) (first : Json) :
    Reads (itemsBehind items) rest ⟨.complete first, .item before :: frames⟩
      ⟨.complete (.array (before ++ first :: items)), frames⟩ := by
  induction items generalizing before first with
  | nil => exact reads_mark rfl (fun _ => rfl) rfl
  | cons j items ih =>
      have hcomma : Reads [','] (j.write.toList ++ itemsBehind items ++ rest)
          ⟨.complete first, .item before :: frames⟩
          ⟨.value, .item (before ++ [first]) :: frames⟩ := reads_mark rfl (fun _ => rfl) rfl
      rw [depthOfItems] at hdepth
      have hitem := h j List.mem_cons_self (.item (before ++ [first]) :: frames) _
        (ends_itemsBehind items rest) (by rw [List.length_cons]; omega)
      have hbehind := ih (fun k hk => h k (List.mem_cons_of_mem _ hk)) (by omega)
        (before ++ [first]) j
      rw [List.append_assoc] at hbehind
      rw [itemsBehind_cons]
      exact hcomma.append (hitem.append hbehind)

/-- Where one of the items is too deep, reading stops in it. -/
theorem stops_itemsBehind (frames : List Frame) (rest : List Char) {items : List Json}
    (h : ∀ j ∈ items, j.ReadsBack ∧ j.Refused) (hframes : frames.length < maxDepth)
    (hdepth : maxDepth < frames.length + 1 + depthOfItems items) (before : List Json)
    (first : Json) :
    Stops (itemsBehind items ++ rest) ⟨.complete first, .item before :: frames⟩ := by
  induction items generalizing before first with
  | nil =>
      rw [depthOfItems] at hdepth
      omega
  | cons j items ih =>
      obtain ⟨⟨hback, hrefused⟩, hitems⟩ := List.forall_mem_cons.mp h
      rw [depthOfItems] at hdepth
      have hcomma : Reads [','] (j.write.toList ++ (itemsBehind items ++ rest))
          ⟨.complete first, .item before :: frames⟩
          ⟨.value, .item (before ++ [first]) :: frames⟩ := reads_mark rfl (fun _ => rfl) rfl
      have hends := ends_itemsBehind items rest
      rw [itemsBehind_cons, List.append_assoc, List.append_assoc]
      refine hcomma.stops ?_
      by_cases hj : frames.length + 1 + j.depth ≤ maxDepth
      · exact (hback (.item (before ++ [first]) :: frames) _ hends hj).stops
          (ih hitems (by omega) (before ++ [first]) j)
      · exact hrefused _ _ _ hends ⟨rfl, rfl⟩ hframes (Nat.lt_of_not_le hj)

theorem readsBack_array {items : List Json} (h : ∀ j ∈ items, j.ReadsBack) :
    ReadsBack (.array items) := by
  intro frames rest _ hdepth
  rw [depth] at hdepth
  have hopen {rest : List Char} : Reads ['['] rest ⟨.value, frames⟩ ⟨.firstItem, frames⟩ :=
    reads_mark rfl (fun _ => rfl) (if_pos (show frames.length < maxDepth by omega))
  cases items with
  | nil => exact hopen.append (reads_mark rfl (fun _ => rfl) rfl)
  | cons j items =>
      rw [depthOfItems] at hdepth
      have hfirst := h j List.mem_cons_self (.item [] :: frames) _ (ends_itemsBehind items rest)
        (by rw [List.length_cons]; omega)
      have hbehind := reads_itemsBehind frames rest
        (fun k hk => h k (List.mem_cons_of_mem _ hk)) (by omega) [] j
      rw [toList_write_array]
      exact hopen.append (hfirst.firstItem.append hbehind)

theorem refused_array {items : List Json} (h : ∀ j ∈ items, j.ReadsBack ∧ j.Refused) :
    Refused (.array items) := by
  intro frames rest r _ hopens hframes hdepth
  rw [depth] at hdepth
  have htext : ∃ behind, (write (.array items)).toList = ['['] ++ behind := by
    cases items with
    | nil => exact ⟨[']'], rfl⟩
    | cons j items => exact ⟨_, toList_write_array j items⟩
  by_cases hroom : frames.length < maxDepth
  · have hopen {rest : List Char} : Reads ['['] rest r ⟨.firstItem, frames⟩ :=
      reads_mark rfl (fun _ => rfl) (hopens.1.trans (if_pos hroom))
    cases items with
    | nil =>
        rw [depthOfItems] at hdepth
        omega
    | cons j items =>
        obtain ⟨⟨hback, hrefused⟩, hitems⟩ := List.forall_mem_cons.mp h
        have hends := ends_itemsBehind items rest
        rw [depthOfItems] at hdepth
        rw [toList_write_array, List.append_assoc, List.append_assoc]
        refine hopen.stops ?_
        by_cases hj : frames.length + 1 + j.depth ≤ maxDepth
        · exact (hback (.item [] :: frames) _ hends hj).firstItem.stops
            (stops_itemsBehind frames rest hitems hroom (by omega) [] j)
        · exact hrefused (.item [] :: frames) _ _ hends ⟨rfl, rfl⟩ hroom (Nat.lt_of_not_le hj)
  · -- No more may be open, so the bracket itself is refused.
    obtain ⟨behind, htext⟩ := htext
    have hmark : Cuts ['['] [.openArray] (behind ++ rest) := .token rfl rfl
    rw [htext, List.append_assoc]
    exact hmark.stops (hopens.1.trans (if_neg hroom))

/-! ## §3. Objects. -/

theorem writeMembers_eq_map (members : List (String × Json)) :
    writeMembers members = members.map fun m => quoted m.1 ++ ":" ++ m.2.write := by
  induction members with
  | nil => rfl
  | cons m members ih => rw [writeMembers, ih, List.map_cons]

theorem put_of_not_mem {name : String} {j : Json} {members : List (String × Json)}
    (h : name ∉ members.map (·.1)) : put name j members = members ++ [(name, j)] := by
  induction members with
  | nil => rfl
  | cons m members ih =>
      obtain ⟨n, k⟩ := m
      rw [List.map_cons, List.mem_cons, not_or] at h
      rw [put, if_neg (Ne.symm h.1), ih h.2]
      rfl

/-- The text of a member. -/
def memberText (m : String × Json) : List Char :=
  (quoted m.1).toList ++ ([':'] ++ m.2.write.toList)

/-- The text of members behind a first one, with the end of their object. -/
def membersBehind (members : List (String × Json)) : List Char :=
  (members.flatMap fun m => ',' :: memberText m) ++ ['\x7d']

theorem toList_write_object (m : String × Json) (members : List (String × Json)) :
    (write (.object (m :: members))).toList =
      ['\x7b'] ++ (memberText m ++ membersBehind members) := by
  have htext : ∀ m : String × Json, (quoted m.1 ++ ":" ++ m.2.write).toList = memberText m := by
    intro m
    rw [String.toList_append, String.toList_append, List.append_assoc]
    rfl
  rw [write, writeMembers_eq_map, List.map_cons, String.toList_append, String.toList_append,
    toList_intercalate_cons, List.flatMap_map, List.append_assoc, List.append_assoc, htext]
  simp only [htext]
  rfl

theorem ends_membersBehind (members : List (String × Json)) (rest : List Char) :
    Ends (membersBehind members ++ rest) := by
  intro c hc
  cases members with
  | nil => exact .inr (.inr (Option.some.inj hc).symm)
  | cons j members => exact .inl (Option.some.inj hc).symm

/-- The name of a member, from where it must stand, and the colon. -/
theorem reads_name {m : String × Json} {before : List (String × Json)} {frames : List Frame}
    {r : Reading} (hstep : r.step (.scalar (.text m.1)) = some ⟨.colon before m.1, frames⟩)
    (rest : List Char) :
    Reads ((quoted m.1).toList ++ [':']) rest r ⟨.value, .member before m.1 :: frames⟩ :=
  ((cuts_quoted m.1 ([':'] ++ rest)).reads hstep).append (reads_mark rfl (fun _ => rfl) rfl)

theorem memberText_eq (m : String × Json) :
    memberText m = ((quoted m.1).toList ++ [':']) ++ m.2.write.toList :=
  (List.append_assoc ..).symm

/-- A member, from where its name must stand. -/
theorem reads_member {m : String × Json} (h : m.2.ReadsBack) {before : List (String × Json)}
    {frames : List Frame} {rest : List Char} {r : Reading} (hrest : Ends rest)
    (hdepth : frames.length + 1 + m.2.depth ≤ maxDepth)
    (hstep : r.step (.scalar (.text m.1)) = some ⟨.colon before m.1, frames⟩) :
    Reads (memberText m) rest r ⟨.complete m.2, .member before m.1 :: frames⟩ := by
  rw [memberText_eq]
  exact (reads_name hstep _).append (h _ rest hrest hdepth)

/-- A member that is too deep. -/
theorem stops_member {m : String × Json} (h : m.2.Refused) {before : List (String × Json)}
    {frames : List Frame} {rest : List Char} {r : Reading} (hrest : Ends rest)
    (hframes : frames.length < maxDepth) (hdepth : maxDepth < frames.length + 1 + m.2.depth)
    (hstep : r.step (.scalar (.text m.1)) = some ⟨.colon before m.1, frames⟩) :
    Stops (memberText m ++ rest) r := by
  rw [memberText_eq, List.append_assoc]
  exact (reads_name hstep _).stops (h _ rest _ hrest ⟨rfl, rfl⟩ hframes hdepth)

theorem not_mem_of_nodup {before members : List (String × Json)} {m : String × Json}
    (h : ((before ++ m :: members).map (·.1)).Nodup) : m.1 ∉ before.map (·.1) := by
  rw [List.map_append, List.map_cons] at h
  exact fun hmem => (List.nodup_append.mp h).2.2 m.1 hmem m.1 List.mem_cons_self rfl

theorem membersBehind_cons (m : String × Json) (members : List (String × Json)) :
    membersBehind (m :: members) = [','] ++ (memberText m ++ membersBehind members) := by
  simp [membersBehind]

/-- Behind a member, the name of the next one must stand. -/
theorem reads_comma {before : List (String × Json)} {first : String × Json}
    (hfirst : first.1 ∉ before.map (·.1)) (frames : List Frame) (rest : List Char) :
    Reads [','] rest ⟨.complete first.2, .member before first.1 :: frames⟩
      ⟨.nextName (before ++ [first]), frames⟩ := by
  refine reads_mark rfl (fun _ => rfl) ?_
  show some (Reading.mk (.nextName (put first.1 first.2 before)) frames) = _
  rw [put_of_not_mem hfirst]

/-- Over the members behind a first one, reading comes to the object. -/
theorem reads_membersBehind (frames : List Frame) (rest : List Char)
    {members : List (String × Json)} (h : ∀ m ∈ members, m.2.ReadsBack)
    (hdepth : frames.length + 1 + depthOfMembers members ≤ maxDepth)
    (before : List (String × Json)) (first : String × Json)
    (hnames : ((before ++ first :: members).map (·.1)).Nodup) :
    Reads (membersBehind members) rest ⟨.complete first.2, .member before first.1 :: frames⟩
      ⟨.complete (.object (before ++ first :: members)), frames⟩ := by
  induction members generalizing before first with
  | nil =>
      have hput := put_of_not_mem (j := first.2) (not_mem_of_nodup hnames)
      refine reads_mark rfl (fun _ => rfl) ?_
      show some (Reading.mk (.complete (.object (put first.1 first.2 before))) frames) = _
      rw [hput]
  | cons m members ih =>
      rw [depthOfMembers] at hdepth
      have hcomma := reads_comma (not_mem_of_nodup hnames) frames
        (memberText m ++ membersBehind members ++ rest)
      have hmember : Reads (memberText m) (membersBehind members ++ rest)
          ⟨.nextName (before ++ [first]), frames⟩
          ⟨.complete m.2, .member (before ++ [first]) m.1 :: frames⟩ :=
        reads_member (h m List.mem_cons_self) (ends_membersBehind members rest) (by omega) rfl
      have hbehind := ih (fun k hk => h k (List.mem_cons_of_mem _ hk)) (by omega)
        (before ++ [first]) m (by rwa [List.append_assoc])
      rw [List.append_assoc] at hbehind
      rw [membersBehind_cons]
      exact hcomma.append (hmember.append hbehind)

/-- Where one of the members is too deep, reading stops in it. -/
theorem stops_membersBehind (frames : List Frame) (rest : List Char)
    {members : List (String × Json)} (h : ∀ m ∈ members, m.2.ReadsBack ∧ m.2.Refused)
    (hframes : frames.length < maxDepth)
    (hdepth : maxDepth < frames.length + 1 + depthOfMembers members)
    (before : List (String × Json)) (first : String × Json)
    (hnames : ((before ++ first :: members).map (·.1)).Nodup) :
    Stops (membersBehind members ++ rest)
      ⟨.complete first.2, .member before first.1 :: frames⟩ := by
  induction members generalizing before first with
  | nil =>
      rw [depthOfMembers] at hdepth
      omega
  | cons m members ih =>
      obtain ⟨⟨hback, hrefused⟩, hmembers⟩ := List.forall_mem_cons.mp h
      rw [depthOfMembers] at hdepth
      have hends := ends_membersBehind members rest
      rw [membersBehind_cons, List.append_assoc, List.append_assoc]
      refine (reads_comma (not_mem_of_nodup hnames) frames _).stops ?_
      by_cases hm : frames.length + 1 + m.2.depth ≤ maxDepth
      · exact (reads_member hback hends hm rfl).stops
          (ih hmembers (by omega) (before ++ [first]) m (by rwa [List.append_assoc]))
      · exact stops_member hrefused hends hframes (Nat.lt_of_not_le hm) rfl

theorem readsBack_object {members : List (String × Json)}
    (hnames : (members.map (·.1)).Nodup) (h : ∀ m ∈ members, m.2.ReadsBack) :
    ReadsBack (.object members) := by
  intro frames rest _ hdepth
  rw [depth] at hdepth
  have hopen {rest : List Char} : Reads ['\x7b'] rest ⟨.value, frames⟩ ⟨.firstName, frames⟩ :=
    reads_mark rfl (fun _ => rfl) (if_pos (show frames.length < maxDepth by omega))
  cases members with
  | nil => exact hopen.append (reads_mark rfl (fun _ => rfl) rfl)
  | cons m members =>
      rw [depthOfMembers] at hdepth
      have hfirst : Reads (memberText m) (membersBehind members ++ rest) ⟨.firstName, frames⟩
          ⟨.complete m.2, .member [] m.1 :: frames⟩ :=
        reads_member (h m List.mem_cons_self) (ends_membersBehind members rest) (by omega) rfl
      have hbehind := reads_membersBehind frames rest
        (fun k hk => h k (List.mem_cons_of_mem _ hk)) (by omega) [] m hnames
      rw [toList_write_object]
      exact hopen.append (hfirst.append hbehind)

theorem refused_object {members : List (String × Json)} (hnames : (members.map (·.1)).Nodup)
    (h : ∀ m ∈ members, m.2.ReadsBack ∧ m.2.Refused) : Refused (.object members) := by
  intro frames rest r _ hopens hframes hdepth
  rw [depth] at hdepth
  have htext : ∃ behind, (write (.object members)).toList = ['\x7b'] ++ behind := by
    cases members with
    | nil => exact ⟨['\x7d'], rfl⟩
    | cons m members => exact ⟨_, toList_write_object m members⟩
  by_cases hroom : frames.length < maxDepth
  · have hopen {rest : List Char} : Reads ['\x7b'] rest r ⟨.firstName, frames⟩ :=
      reads_mark rfl (fun _ => rfl) (hopens.2.trans (if_pos hroom))
    cases members with
    | nil =>
        rw [depthOfMembers] at hdepth
        omega
    | cons m members =>
        obtain ⟨⟨hback, hrefused⟩, hmembers⟩ := List.forall_mem_cons.mp h
        have hends := ends_membersBehind members rest
        rw [depthOfMembers] at hdepth
        rw [toList_write_object, List.append_assoc, List.append_assoc]
        refine hopen.stops ?_
        by_cases hm : frames.length + 1 + m.2.depth ≤ maxDepth
        · exact (reads_member hback hends hm rfl).stops
            (stops_membersBehind frames rest hmembers hroom (by omega) [] m hnames)
        · exact stops_member hrefused hends hroom (Nat.lt_of_not_le hm) rfl
  · obtain ⟨behind, htext⟩ := htext
    have hmark : Cuts ['\x7b'] [.openObject] (behind ++ rest) := .token rfl rfl
    rw [htext, List.append_assoc]
    exact hmark.stops (hopens.2.trans (if_neg hroom))

/-! ## §4. Trees. -/

/-- **Nothing in the tree is lost in its text.** -/
inductive Faithful : Json → Prop where
  | null : Faithful .null
  | bool (b : Bool) : Faithful (.bool b)
  | integer {n : Int} (h : (int64? n).isSome ∨ (uint64? n).isSome) : Faithful (.integer n)
  | float {x : Binary64} (h : x.ReadsBack) : Faithful (.float x)
  | text (s : String) : Faithful (.text s)
  | array {items : List Json} (h : ∀ j ∈ items, Faithful j) : Faithful (.array items)
  | object {members : List (String × Json)} (hnames : (members.map (·.1)).Nodup)
      (h : ∀ m ∈ members, Faithful m.2) : Faithful (.object members)

theorem faithful_nil : ∀ m ∈ ([] : List (String × Json)), m.2.Faithful :=
  fun _ hm => absurd hm List.not_mem_nil

theorem faithful_cons {name : String} {j : Json} {members : List (String × Json)}
    (hj : j.Faithful) (h : ∀ m ∈ members, m.2.Faithful) :
    ∀ m ∈ (name, j) :: members, m.2.Faithful :=
  List.forall_mem_cons.mpr ⟨hj, h⟩

/-- Over the text of such a tree reading comes to the tree, whatever is open, unless too much is;
then it stops there.  The induction is on the tree. -/
theorem Faithful.readsBack {j : Json} (h : j.Faithful) : j.ReadsBack ∧ j.Refused := by
  have hflat {j : Json} (hdepth : j.depth = 0) : j.Refused := by
    intro frames rest r _ _ hframes hdeep
    omega
  induction h with
  | null => exact ⟨fun frames rest _ _ => (cuts_null rest).reads rfl, hflat rfl⟩
  | bool b => exact ⟨fun frames rest _ _ => (cuts_bool b rest).reads rfl, hflat rfl⟩
  | integer h =>
      refine ⟨fun frames rest hrest _ => ?_, hflat rfl⟩
      exact (cuts_number hrest (numberAt_integer h)).reads rfl
  | float h =>
      refine ⟨fun frames rest hrest _ => ?_, hflat rfl⟩
      rw [write, if_pos h.isFinite]
      exact (cuts_number hrest h.numberAt).reads rfl
  | text s => exact ⟨fun frames rest _ _ => (cuts_quoted s rest).reads rfl, hflat rfl⟩
  | array _ ih => exact ⟨readsBack_array fun j hj => (ih j hj).1, refused_array ih⟩
  | object hnames _ ih =>
      exact ⟨readsBack_object hnames fun m hm => (ih m hm).1, refused_object hnames ih⟩

/-- **The text of the tree is read as the tree.** -/
theorem Faithful.read_write {j : Json} (h : j.Faithful) (hdepth : j.depth ≤ maxDepth) :
    read j.write = some j :=
  (h.readsBack.1 [] [] nofun (by rwa [List.length_nil, Nat.zero_add])).read_eq

/-- **The text of a tree that is too deep is refused.** -/
theorem Faithful.read_write_deep {j : Json} (h : j.Faithful) (hdepth : maxDepth < j.depth) :
    read j.write = none := by
  have hstops := h.readsBack.2 [] [] ⟨.value, []⟩ nofun ⟨rfl, rfl⟩ (Nat.zero_le _)
    (by rwa [List.length_nil, Nat.zero_add])
  rw [List.append_nil] at hstops
  exact hstops.read_eq_none

end Json

end RecordSearch
