/-
This file says what becomes of the references to variables in a command. The strings that the code
for a request quotes, apart from those of the body, are each for a slot: the address, the method,
the name or the value of a header, the user or the password. A word of the command fills the slot,
or a part of the word up to its first colon or from there.

A slot for an address, a value or a credential keeps each reference as it is. The method is put in
capitals as a whole and the name of a header is put in its customary form, and so are the names of
the variables in them.
-/

import CurlScribe.Proofs.EmittedLiterals
import CurlScribe.Proofs.RepeatedHeaders
import CurlScribe.Proofs.VariableReferences

namespace CurlScribe

open Text

/-! ### Slots -/

/-- What a string of a request is for. Headers are told apart by their names in small letters. -/
inductive Slot where
  | address
  | method
  | headerName (key : String)
  | headerValue (key : String)
  | user
  | password
  deriving DecidableEq, Repr

/-- What the slot makes of a name behind a dollar. -/
def Slot.spelling : Slot → List Char → List Char
  | .method, name => name.map Char.toUpper
  | .headerName _, name => titleFrom false name
  | .address, name | .headerValue _, name | .user, name | .password, name => name

/-- What the slot makes of the part of a word that fills it. -/
def Slot.form : Slot → List Char → List Char
  | .method, part => part.flatMap raise
  | .headerName _, part => titleFrom false (trimBoth part)
  | .headerValue _, part => trimBoth part
  | .address, part | .user, part | .password, part => part

/-- Every reference in a part stays in its form, with the spelling of the slot. In a method the name
may go on. -/
theorem Slot.exists_refersTo_form (slot : Slot) {part before name after : List Char}
    (refers : Refers part before name after) :
    ∃ more, RefersTo (slot.form part) (slot.spelling name ++ more) ∧
      (more = [] ∨ slot = .method ∧ RunsOn after) := by
  have kept : ∀ {slot : Slot}, RefersTo (slot.form part) (slot.spelling name) →
      ∃ more, RefersTo (slot.form part) (slot.spelling name ++ more) ∧
        (more = [] ∨ slot = .method ∧ RunsOn after) :=
    fun there => ⟨[], by rwa [List.append_nil], Or.inl rfl⟩
  cases slot with
  | method =>
    obtain ⟨more, rest, stays, raised⟩ := refers.raised
    exact ⟨more, raised.refersTo, stays.imp_right fun runs => ⟨rfl, runs⟩⟩
  | headerName key => exact kept refers.trimmed.titled.refersTo
  | headerValue key => exact kept refers.trimmed.refersTo
  | address | user | password => exact kept refers.refersTo

/-- Every name in a form has the spelling of the slot. -/
theorem Slot.spelling_of_refersTo_form (slot : Slot) {part name : List Char}
    (refers : RefersTo (slot.form part) name) : slot.spelling name = name := by
  cases slot with
  | method => exact map_toUpper_of_refersTo refers
  | headerName key => exact titleFrom_eq_of_refersTo refers
  | address | headerValue _ | user | password => rfl

/-! ### Strings of a request -/

/-- The strings of headers, each with its slot. The host has no name in the code. -/
def headerStrings (headers : Headers) : List (Slot × String) :=
  (headers.find? "Host").toList.map (fun host => (.headerValue (lowered host.name), host.value)) ++
  (headers.erase "Host").entries.flatMap fun header =>
    [(.headerName (lowered header.name), header.name),
      (.headerValue (lowered header.name), header.value)]

/-- The strings of a request that are for a slot. The code for a simple request names its method by
a function if there is one. -/
def slotStrings (request : Request) : List (Slot × String) :=
  if request.isSimple then
    if request.method ∈ ["GET", "POST", "HEAD"] then [(.address, request.url)]
    else [(.method, request.method), (.address, request.url)]
  else
    [(.method, request.method), (.address, request.url)] ++
    request.basicAuth.toList.flatMap (fun auth =>
      [(.user, auth.user), (.password, auth.password)]) ++
    headerStrings request.headers

/-- The strings of a request that are for its body: the paths of files, and the names and values of
form fields. -/
def bodyStrings (request : Request) : List String :=
  if request.isSimple then []
  else request.body.payload?.toList.flatMap Go.payloadStrings ++ request.body.paths

/-- The strings that are written quoted are those of the body and those for the slots. -/
theorem quotedStrings_eq (request : Request) :
    Go.quotedStrings request = bodyStrings request ++ (slotStrings request).map Prod.snd := by
  unfold Go.quotedStrings bodyStrings slotStrings headerStrings
  split_ifs
  · rfl
  · rfl
  · simp [List.map_flatMap, Function.comp_def]

/-- The request has the string for the slot. -/
inductive HasString (request : Request) : Slot → String → Prop
  | address : HasString request .address request.url
  | method : HasString request .method request.method
  | headerName {header : Header} (member : header ∈ request.headers.entries) :
      HasString request (.headerName (lowered header.name)) header.name
  | headerValue {header : Header} (member : header ∈ request.headers.entries) :
      HasString request (.headerValue (lowered header.name)) header.value
  | user {auth : BasicAuth} (given : request.basicAuth = some auth) :
      HasString request .user auth.user
  | password {auth : BasicAuth} (given : request.basicAuth = some auth) :
      HasString request .password auth.password

theorem hasString_of_mem_headerStrings {request : Request} {slot : Slot} {text : String}
    (member : (slot, text) ∈ headerStrings request.headers) : HasString request slot text := by
  rcases List.mem_append.1 member with host | other
  · obtain ⟨header, found, same⟩ := List.mem_map.1 host
    cases same
    exact .headerValue (List.mem_of_find?_eq_some (Option.mem_toList.1 found))
  · obtain ⟨header, there, same⟩ := List.mem_flatMap.1 other
    have within : header ∈ request.headers.entries := List.mem_of_mem_eraseP there
    simp only [List.mem_cons, List.not_mem_nil, or_false] at same
    rcases same with same | same
    · cases same
      exact .headerName within
    · cases same
      exact .headerValue within

theorem hasString_of_mem_slotStrings {request : Request} {slot : Slot} {text : String}
    (member : (slot, text) ∈ slotStrings request) : HasString request slot text := by
  have first : (slot, text) ∈ [(Slot.method, request.method), (Slot.address, request.url)] →
      HasString request slot text := by
    intro within
    simp only [List.mem_cons, List.not_mem_nil, or_false] at within
    rcases within with same | same
    · cases same
      exact .method
    · cases same
      exact .address
  unfold slotStrings at member
  split_ifs at member with simple known
  · exact first (List.mem_cons_of_mem _ member)
  · exact first member
  · rcases List.mem_append.1 member with front | header
    · rcases List.mem_append.1 front with start | credentials
      · exact first start
      · obtain ⟨auth, given, same⟩ := List.mem_flatMap.1 credentials
        have there := Option.mem_toList.1 given
        simp only [List.mem_cons, List.not_mem_nil, or_false] at same
        rcases same with same | same
        · cases same
          exact .user there
        · cases same
          exact .password there
    · exact hasString_of_mem_headerStrings header

/-! ### Header lines -/

/-- The line sets the header with the key. -/
def SetsHeader (key line : String) : Prop :=
  ∃ name value : List Char, line.toList = name ++ ':' :: value ∧ ':' ∉ name ∧
    lowered (String.ofList (trimBoth name)) = key

/-- The last line of a command that sets the header with a key. -/
def IsLastLine (command : Command) (key line : String) : Prop :=
  ∃ earlier later, headerLines command = earlier ++ line :: later ∧ SetsHeader key line ∧
    ∀ other ∈ later, ¬ SetsHeader key other

theorem setsHeader_iff (key line : String) :
    SetsHeader key line ↔ ∃ pair, headerOfLine line = some pair ∧ lowered pair.1 = key := by
  constructor
  · rintro ⟨name, value, whole, first, same⟩
    exact ⟨_, headerOfLine_of_colon whole first, same⟩
  · rintro ⟨pair, read, same⟩
    by_cases member : ':' ∈ line.toList
    · obtain ⟨name, value, whole, first⟩ := exists_first_colon member
      rw [headerOfLine_of_colon whole first] at read
      rw [← Option.some.inj read] at same
      exact ⟨name, value, whole, first, same⟩
    · rw [headerOfLine_of_no_colon member] at read
      cases read

/-- Only one pair is the last one for a key. -/
theorem IsLast.unique {pairs : List (String × String)} {key : String} {pair other : String × String}
    (last : IsLast pairs key pair) (lastOther : IsLast pairs key other) : pair = other := by
  have found : ∀ {one}, IsLast pairs key one →
      pairs.reverse.find? (fun pair => lowered pair.1 == key) = some one := by
    rintro one ⟨earlier, later, rfl, same, silent⟩
    refine List.find?_eq_some_iff_append.2
      ⟨beq_iff_eq.2 same, later.reverse, earlier.reverse, by simp, fun another member => ?_⟩
    simpa using silent another (List.mem_reverse.1 member)
  exact Option.some.inj ((found last).symm.trans (found lastOther))

theorem IsLastLine.isLast {command : Command} {key line : String} {name value : List Char}
    (last : IsLastLine command key line) (whole : line.toList = name ++ ':' :: value)
    (first : ':' ∉ name) :
    IsLast ((headerLines command).filterMap headerOfLine) key
      (String.ofList (trimBoth name), String.ofList (trimBoth value)) := by
  obtain ⟨earlier, later, split, sets, silent⟩ := last
  obtain ⟨pair, read, same⟩ := (setsHeader_iff key line).1 sets
  obtain rfl := Option.some.inj (read.symm.trans (headerOfLine_of_colon whole first))
  refine ⟨earlier.filterMap headerOfLine, later.filterMap headerOfLine, ?_, same, ?_⟩
  · rw [split, List.filterMap_append, List.filterMap_cons_some read]
  · intro other member equal
    obtain ⟨another, there, readOther⟩ := List.mem_filterMap.1 member
    exact silent another there ((setsHeader_iff key another).2 ⟨other, readOther, equal⟩)

theorem exists_isLastLine {command : Command} {key : String} {pair : String × String}
    (last : IsLast ((headerLines command).filterMap headerOfLine) key pair) :
    ∃ line, IsLastLine command key line := by
  obtain ⟨earlier, later, split, same, silent⟩ := last
  obtain ⟨front, back, whole, -, behind⟩ := List.filterMap_eq_append_iff.1 split
  obtain ⟨between, line, rest, rfl, -, read, rfl⟩ := List.filterMap_eq_cons_iff.1 behind
  refine ⟨line, front ++ between, rest, by rw [whole, List.append_assoc], ?_, ?_⟩
  · exact (setsHeader_iff key line).2 ⟨pair, read, same⟩
  · intro other member sets
    obtain ⟨another, readOther, equal⟩ := (setsHeader_iff key other).1 sets
    exact silent another (List.mem_filterMap.2 ⟨other, member, readOther⟩) equal

/-! ### Words for slots -/

/-- The credentials of a command: the last value of `user`, or else of `u`. -/
def credentials (command : Command) : Option String :=
  (command.last? "user").or (command.last? "u")

/-- A word of the command fills the slot, or the part of it between the given texts does. -/
inductive Fills (command : Command) : Slot → String → List Char → List Char → List Char → Prop
  | address {word : String}
      (given : (command.first? "url").or command.positionals[1]? = some word) :
      Fills command .address word [] word.toList []
  | method {word : String} (given : namedMethod command = some word) (nonempty : word ≠ "") :
      Fills command .method word [] word.toList []
  | headerName {key line : String} {name value : List Char} (last : IsLastLine command key line)
      (whole : line.toList = name ++ ':' :: value) (first : ':' ∉ name) :
      Fills command (.headerName key) line [] name (':' :: value)
  | headerValue {key line : String} {name value : List Char} (last : IsLastLine command key line)
      (whole : line.toList = name ++ ':' :: value) (first : ':' ∉ name) :
      Fills command (.headerValue key) line (name ++ [':']) value []
  | user {word : String} {user password : List Char} (given : credentials command = some word)
      (whole : word.toList = user ++ ':' :: password) (first : ':' ∉ user) :
      Fills command .user word [] user (':' :: password)
  | userAlone {word : String} (given : credentials command = some word)
      (absent : ':' ∉ word.toList) : Fills command .user word [] word.toList []
  | password {word : String} {user password : List Char} (given : credentials command = some word)
      (whole : word.toList = user ++ ':' :: password) (first : ':' ∉ user) :
      Fills command .password word (user ++ [':']) password []

theorem Fills.whole {command : Command} {slot : Slot} {word : String}
    {front part back : List Char} (fills : Fills command slot word front part back) :
    word.toList = front ++ part ++ back := by
  cases fills with
  | address _ | method _ _ | userAlone _ _ => simp
  | headerName _ whole _ | headerValue _ whole _ | user _ whole _ | password _ whole _ =>
    simpa using whole

theorem header_of_isLastLine {command : Command} {header : Header} {line : String}
    {name value : List Char} (member : header ∈ (requestOf command).headers.entries)
    (last : IsLastLine command (lowered header.name) line)
    (whole : line.toList = name ++ ':' :: value) (first : ':' ∉ name) :
    header.name.toList = titleFrom false (trimBoth name) ∧
      header.value.toList = trimBoth value := by
  have set := last.isLast whole first
  rw [entries_requestOf] at member
  rcases List.mem_append.1 member with own | added
  · obtain ⟨given, named, lastGiven⟩ := (standFor_ofPairs _).last header own
    have same := lastGiven.unique set
    rw [Prod.mk.injEq] at same
    rw [named, same.1, same.2]
    simp [titleCase]
  · -- The default content type is added only where no line sets one.
    obtain ⟨earlier, later, split, named, -⟩ := set
    unfold addedHeaders at added
    split_ifs at added with alone
    · refine absurd ?_ (alone.2 _ (split ▸ List.mem_append_right _ List.mem_cons_self))
      rw [named, List.mem_singleton.1 added]
      decide +kernel
    · cases added

theorem toList_methodOf {command : Command} {word : String}
    (given : namedMethod command = some word) (nonempty : word ≠ "") :
    (methodOf command).toList = word.toList.flatMap raise := by
  have chosen : chosenMethod command = upperCase word := by
    rw [chosenMethod, given]
  have form : (upperCase word).toList = word.toList.flatMap raise := String.toList_ofList
  have raised : (upperCase word).isEmpty = false := by
    rw [Bool.eq_false_iff, Ne, String.isEmpty_iff, ← String.toList_inj, form]
    obtain ⟨character, rest, whole⟩ := List.exists_cons_of_ne_nil
      (fun empty => nonempty (String.toList_eq_nil_iff.1 empty) : word.toList ≠ [])
    rw [whole, List.flatMap_cons]
    exact List.append_ne_nil_of_left_ne_nil (raise_ne_nil character) _
  simp only [methodOf, chosen, raised, form, Bool.not_false, if_true]

theorem exists_credentials {command : Command} {auth : BasicAuth}
    (given : (requestOf command).basicAuth = some auth) :
    ∃ word, credentials command = some word ∧ auth = .ofCredentials word := by
  have kept : ((credentials command).filter (!·.isEmpty)).map BasicAuth.ofCredentials =
      some auth := given
  obtain ⟨word, found, rfl⟩ := Option.map_eq_some_iff.1 kept
  exact ⟨word, (Option.filter_eq_some_iff.1 found).1, rfl⟩

theorem eq_ofCredentials {command : Command} {auth : BasicAuth} {word : String}
    (given : (requestOf command).basicAuth = some auth)
    (filled : credentials command = some word) : auth = .ofCredentials word := by
  obtain ⟨other, found, rfl⟩ := exists_credentials given
  rw [Option.some.inj (found.symm.trans filled)]

theorem ofCredentials_of_colon {word : String} {user password : List Char}
    (whole : word.toList = user ++ ':' :: password) (first : ':' ∉ user) :
    BasicAuth.ofCredentials word = ⟨String.ofList user, String.ofList password⟩ := by
  rw [BasicAuth.ofCredentials, cutAt, whole, splitFirst_append first]
  rfl

theorem ofCredentials_of_no_colon {word : String} (absent : ':' ∉ word.toList) :
    BasicAuth.ofCredentials word = ⟨word, passwordPlaceholder⟩ := by
  rw [BasicAuth.ofCredentials, cutAt, (splitFirst_eq_none_iff ':' _).2 absent]
  rfl

/-- The string for a slot is the form of each part of a word that fills the slot. -/
theorem toList_of_fills {command : Command} {slot : Slot} {text word : String}
    {front part back : List Char} (has : HasString (requestOf command) slot text)
    (fills : Fills command slot word front part back) : text.toList = slot.form part := by
  cases has with
  | address =>
    obtain ⟨given⟩ := fills
    show (addressOf command).toList = word.toList
    rw [addressOf, given]
    rfl
  | method =>
    obtain - | ⟨given, nonempty⟩ := fills
    exact toList_methodOf given nonempty
  | headerName member =>
    obtain - | - | ⟨last, whole, first⟩ := fills
    exact (header_of_isLastLine member last whole first).1
  | headerValue member =>
    obtain - | - | - | ⟨last, whole, first⟩ := fills
    exact (header_of_isLastLine member last whole first).2
  | user given =>
    cases fills with
    | user filled whole first =>
      rw [eq_ofCredentials given filled, ofCredentials_of_colon whole first]
      exact String.toList_ofList
    | userAlone filled absent =>
      rw [eq_ofCredentials given filled, ofCredentials_of_no_colon absent]
      rfl
  | password given =>
    cases fills with
    | password filled whole first =>
      rw [eq_ofCredentials given filled, ofCredentials_of_colon whole first]
      exact String.toList_ofList

theorem dollar_not_mem_methodOf {command : Command}
    (unnamed : ∀ word, namedMethod command = some word → word = "") :
    '$' ∉ (methodOf command).toList := by
  have chosen : chosenMethod command ∈ ["", "POST", "HEAD"] := by
    unfold chosenMethod
    cases named : namedMethod command with
    | some word =>
      rw [unnamed word named]
      exact (by decide : upperCase "" ∈ ["", "POST", "HEAD"])
    | none => split_ifs <;> decide
  simp only [List.mem_cons, List.not_mem_nil, or_false] at chosen
  unfold methodOf
  rcases chosen with same | same | same
  · rw [same]
    split_ifs <;> decide
  · rw [same]
    exact (by decide : '$' ∉ "POST".toList)
  · rw [same]
    exact (by decide : '$' ∉ "HEAD".toList)

/-- A header is that of a line, or the default content type. -/
theorem exists_line_of_header {command : Command} {header : Header}
    (member : header ∈ (requestOf command).headers.entries) :
    (∃ line name value, IsLastLine command (lowered header.name) line ∧
      line.toList = name ++ ':' :: value ∧ ':' ∉ name) ∨
    header = ⟨"Content-Type", "application/x-www-form-urlencoded"⟩ := by
  rw [entries_requestOf] at member
  rcases List.mem_append.1 member with own | added
  · obtain ⟨given, -, lastGiven⟩ := (standFor_ofPairs _).last header own
    obtain ⟨line, last⟩ := exists_isLastLine lastGiven
    obtain ⟨-, -, -, ⟨name, value, whole, first, -⟩, -⟩ := id last
    exact Or.inl ⟨line, name, value, last, whole, first⟩
  · unfold addedHeaders at added
    split_ifs at added
    · exact Or.inr (List.mem_singleton.1 added)
    · cases added

/-- Where no word fills a slot, the string for it is a fixed one without a dollar. -/
theorem exists_fills {command : Command} {slot : Slot} {text : String}
    (has : HasString (requestOf command) slot text) (dollar : '$' ∈ text.toList) :
    ∃ word front part back, Fills command slot word front part back := by
  cases has with
  | address =>
    change '$' ∈ (addressOf command).toList at dollar
    cases given : (command.first? "url").or command.positionals[1]? with
    | none =>
      rw [addressOf, given] at dollar
      exact absurd dollar (by decide)
    | some word => exact ⟨_, _, _, _, .address given⟩
  | method =>
    by_contra none
    refine dollar_not_mem_methodOf (fun word given => ?_) dollar
    by_contra nonempty
    exact none ⟨_, _, _, _, .method given nonempty⟩
  | headerName member =>
    rcases exists_line_of_header member with ⟨line, name, value, last, whole, first⟩ | rfl
    · exact ⟨_, _, _, _, .headerName last whole first⟩
    · exact absurd dollar (by decide)
  | headerValue member =>
    rcases exists_line_of_header member with ⟨line, name, value, last, whole, first⟩ | rfl
    · exact ⟨_, _, _, _, .headerValue last whole first⟩
    · exact absurd dollar (by decide)
  | user given =>
    obtain ⟨word, filled, -⟩ := exists_credentials given
    by_cases colon : ':' ∈ word.toList
    · obtain ⟨user, password, whole, first⟩ := exists_first_colon colon
      exact ⟨_, _, _, _, .user filled whole first⟩
    · exact ⟨_, _, _, _, .userAlone filled colon⟩
  | password given =>
    obtain ⟨word, filled, rfl⟩ := exists_credentials given
    by_cases colon : ':' ∈ word.toList
    · obtain ⟨user, password, whole, first⟩ := exists_first_colon colon
      exact ⟨_, _, _, _, .password filled whole first⟩
    · rw [ofCredentials_of_no_colon colon] at dollar
      exact absurd dollar (by decide : '$' ∉ passwordPlaceholder.toList)

/-! ### References in commands -/

/-- The references to variables in a command. The strings that the code quotes are those of the body
and those for the slots. A string for a slot that holds a dollar comes from a word of the command.
Every reference that lies in the part of a word that fills a slot is in the string for the slot, its
name with the spelling of the slot; only the name in a method may go on. The name can be there as it
is in the command only if it has the spelling of the slot. -/
theorem references_of_extract {command : Command} {request : Request}
    (extracted : extract command = .ok request) :
    (∀ options typeWriter, (Go.draft options typeWriter request).literals.Perm
      (Go.otherLiterals ⟨typeWriter, options.effectiveTypeName, request.encoding⟩ request ++
        (bodyStrings request ++ (slotStrings request).map Prod.snd).map Go.stringToken)) ∧
    ∀ slot text, (slot, text) ∈ slotStrings request →
      ('$' ∈ text.toList → ∃ word front part back, Fills command slot word front part back) ∧
      ∀ word front part back, Fills command slot word front part back →
        ∀ before name after, Refers word.toList (front ++ before) name (after ++ back) →
          (∃ more, RefersTo text.toList (slot.spelling name ++ more) ∧
            (more = [] ∨ slot = .method ∧ RunsOn after)) ∧
          (RefersTo text.toList name → slot.spelling name = name) := by
  obtain rfl := eq_requestOf_of_extract extracted
  constructor
  · intro options typeWriter
    rw [← quotedStrings_eq]
    exact Go.literals_draft options typeWriter (requestOf command)
  intro slot text member
  have has := hasString_of_mem_slotStrings member
  refine ⟨exists_fills has, ?_⟩
  intro word front part back fills before name after refers
  rw [fills.whole] at refers
  have within : Refers part before name after := Refers.of_around refers
  rw [toList_of_fills has fills]
  exact ⟨slot.exists_refersTo_form within, slot.spelling_of_refersTo_form⟩

/-- A header whose name and value refer to variables, with a blank behind the value: the name in the
value stays, and the one in the name of the header starts with a capital. -/
theorem references_of_extract_header :
    let command : Command := {
      positionals := ["curl", "http://localhost"]
      flags := ⟨[("H", .values ["X-$user_id: Bearer $tok "])]⟩ }
    let request : Request := {
      url := "http://localhost"
      method := "GET"
      headers := ⟨[⟨"X-$User_id", "Bearer $tok"⟩]⟩ }
    extract command = .ok request ∧
      Refers "X-$user_id: Bearer $tok ".toList "X-$user_id: Bearer ".toList "tok".toList [' '] ∧
      RefersTo "Bearer $tok".toList "tok".toList ∧
      Refers "X-$user_id: Bearer $tok ".toList "X-".toList "user_id".toList
        ": Bearer $tok ".toList ∧
      RefersTo "X-$User_id".toList "User_id".toList ∧
      ¬ RefersTo "X-$User_id".toList "user_id".toList := by
  intro command request
  have extracted : extract command = .ok request := by
    decide +kernel
  have valid : IsName "tok".toList ∧ IsName "user_id".toList := by
    simp [IsName, isNameCharacter]
  have first : Refers "X-$user_id: Bearer $tok ".toList "X-$user_id: Bearer ".toList "tok".toList
      [' '] := ⟨by decide, valid.1, by rintro _ ⟨⟩; rfl⟩
  have second : Refers "X-$user_id: Bearer $tok ".toList "X-".toList "user_id".toList
      ": Bearer $tok ".toList := ⟨by decide, valid.2, by rintro _ ⟨⟩; rfl⟩
  have whole : "X-$user_id: Bearer $tok ".toList =
      "X-$user_id".toList ++ ':' :: " Bearer $tok ".toList := by
    decide
  have alone : ':' ∉ "X-$user_id".toList := by
    decide
  have last : IsLastLine command "x-$user_id" "X-$user_id: Bearer $tok " :=
    ⟨[], [], rfl, ⟨_, _, whole, alone, by decide +kernel⟩, List.forall_mem_nil _⟩
  have slots : slotStrings request =
      [(.method, "GET"), (.address, "http://localhost"), (.headerName "x-$user_id", "X-$User_id"),
        (.headerValue "x-$user_id", "Bearer $tok")] := by
    decide +kernel
  have strings := (references_of_extract extracted).2
  rw [slots] at strings
  obtain ⟨⟨more, value, stays⟩, -⟩ := (strings (.headerValue "x-$user_id") "Bearer $tok"
    (by simp)).2 _ _ _ _ (.headerValue last whole alone) " Bearer ".toList _ [' '] first
  obtain ⟨⟨rest, name, ends⟩, capital⟩ := (strings (.headerName "x-$user_id") "X-$User_id"
    (by simp)).2 _ _ _ _ (.headerName last whole alone) "X-".toList _ [] second
  obtain rfl := stays.resolve_right fun method => Slot.noConfusion method.1
  obtain rfl := ends.resolve_right fun method => Slot.noConfusion method.1
  rw [List.append_nil] at value name
  have spelled : (Slot.headerName "x-$user_id").spelling "user_id".toList = "User_id".toList := by
    decide
  rw [spelled] at name capital
  exact ⟨extracted, first, value, second, name, fun there => absurd (capital there) (by decide)⟩

/-- A name in small letters is not kept in a method or in the name of a header. -/
theorem not_refersTo_of_extract :
    let command : Command := {
      positionals := ["curl", "http://localhost"]
      flags := ⟨[("X", .values ["$verb"]), ("H", .values ["$token: x"])]⟩ }
    ∃ request, extract command = .ok request ∧
      (.method, "$VERB") ∈ slotStrings request ∧
      Fills command .method "$verb" [] "$verb".toList [] ∧
      Refers "$verb".toList [] "verb".toList [] ∧ ¬ RefersTo "$VERB".toList "verb".toList ∧
      (.headerName "$token", "$Token") ∈ slotStrings request ∧
      Fills command (.headerName "$token") "$token: x" [] "$token".toList ": x".toList ∧
      Refers "$token: x".toList [] "token".toList ": x".toList ∧
      ¬ RefersTo "$Token".toList "token".toList := by
  intro command
  have valid : IsName "verb".toList ∧ IsName "token".toList := by
    simp [IsName, isNameCharacter]
  have sets : SetsHeader "$token" "$token: x" :=
    ⟨"$token".toList, " x".toList, by decide, by decide, by decide +kernel⟩
  have last : IsLastLine command "$token" "$token: x" :=
    ⟨[], [], rfl, sets, List.forall_mem_nil _⟩
  refine ⟨requestOf command, rfl, by decide +kernel, .method rfl (by decide),
    ⟨by decide, valid.1, endsName_nil⟩, fun there => ?_, by decide +kernel,
    .headerName last (by decide) (by decide), ⟨by decide, valid.2, by rintro _ ⟨⟩; rfl⟩,
    fun there => ?_⟩
  · have raised : "$VERB".toList = "$verb".toList.flatMap raise := by
      decide
    rw [raised] at there
    exact absurd (map_toUpper_of_refersTo there) (by decide)
  · have titled : "$Token".toList = titleFrom false "$token".toList := by
      decide
    rw [titled] at there
    exact absurd (titleFrom_eq_of_refersTo there) (by decide)

end CurlScribe
