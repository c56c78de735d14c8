import BalanceSheetAnalysis.Library.Json
import BalanceSheetAnalysis.Library.Text
import BalanceSheetAnalysis.Llm.Years

/-! Asking the model.  Its answer is found by following names into whatever
JSON came back, and three kinds of failure on the way are reported as one. -/
namespace BalanceSheetAnalysis
open Library Text Authorization Access BalanceSheetAnalysis.Action

/-- The exceptions the call may raise. -/
inductive PyError where
  | keyError
  | indexError
  | valueError
  | typeError
  | attributeError
  | runtimeError (detail : String)
  deriving DecidableEq

structure GroqConfig where
  apiKey : String
  apiUrl : String
  model : String

/-- What is posted. -/
structure GroqPost where
  url : String
  authorization : String
  model : String
  systemPrompt : String
  question : String

/-- The body of a response, as `response.json()` takes it.  Of the bodies that are
JSON, those with a lone surrogate in a text are left out: no `String` has one. -/
inductive Body where
  | json (value : Json)
  | notJson
  | tooDeep

structure GroqResponse where
  statusCode : Int
  text : String
  body : Body

/-- What comes of a post. -/
inductive Transport where
  | httpError (detail : String)
  | response (response : GroqResponse)

/-- `RecursionError` is a `RuntimeError`. -/
def Body.decode : Body → Except PyError Json
  | .json value => .ok value
  | .notJson => .error .valueError
  | .tooDeep => .error (.runtimeError "maximum recursion depth exceeded")

/-- `value[name]`. -/
def subscriptName (name : String) : Json → Except PyError Json
  | .obj fields =>
      match Dict.find? fields name with
      | some value => .ok value
      | none => .error .keyError
  | _ => .error .typeError

/-- `value[0]`; the keys of an object are texts. -/
def subscriptFirst : Json → Except PyError Json
  | .obj _ => .error .keyError
  | .arr [] => .error .indexError
  | .arr (item :: _) => .ok item
  | .str text =>
      match text.toList with
      | [] => .error .indexError
      | char :: _ => .ok (.str (String.singleton char))
  | _ => .error .typeError

/-- `str.isspace` of one character. -/
def isSpace (char : Char) : Bool :=
  let code := char.toNat
  (9 ≤ code && code ≤ 13) || (28 ≤ code && code ≤ 32) || (8192 ≤ code && code ≤ 8202) ||
    [133, 160, 5760, 8232, 8233, 8239, 8287, 12288].contains code

/-- `value.strip()`. -/
def stripText : Json → Except PyError String
  | .str text => .ok (strip isSpace text)
  | _ => .error .attributeError

def readAnswer (body : Body) : Except PyError String := do
  let payload ← body.decode
  let choices ← subscriptName "choices" payload
  let choice ← subscriptFirst choices
  let message ← subscriptName "message" choice
  let content ← subscriptName "content" message
  stripText content

/-- `except (KeyError, IndexError, ValueError)`. -/
def unexpectedShape (text : String) : PyError → PyError
  | .keyError | .indexError | .valueError =>
      .runtimeError s!"Unexpected Groq API response shape: {text}"
  | error => error

def systemPrompt (groundingContext : String) : String :=
  "You are a balance-sheet analysis assistant for company analysts and " ++
    "top-management. Answer the user's question using ONLY the balance " ++
    "sheet data provided below. Do not invent figures. If the data " ++
    "doesn't cover what's being asked, say so explicitly instead of " ++
    "guessing.\n\n" ++ groundingContext

def groqPost (config : GroqConfig) (question groundingContext : String) : GroqPost where
  url := config.apiUrl
  authorization := s!"Bearer {config.apiKey}"
  model := config.model
  systemPrompt := systemPrompt groundingContext
  question := question

def askGroq (config : GroqConfig) (post : GroqPost → Transport)
    (question groundingContext : String) : Except PyError String :=
  if config.apiKey = "" then .error (.runtimeError "GROQ_API_KEY is not configured")
  else
    match post (groqPost config question groundingContext) with
    | .httpError detail => .error (.runtimeError s!"Failed to reach Groq API: {detail}")
    | .response response =>
        if response.statusCode ≠ 200 then
          .error (.runtimeError s!"Groq API error ({response.statusCode}): {response.text}")
        else (readAnswer response.body).mapError (unexpectedShape response.text)

/-- The status of `POST /llm/chat`; other exceptions reach the handler of last
resort. -/
def chatStatus : Except PyError String → Nat
  | .ok _ => 200
  | .error (.runtimeError _) => 502
  | .error _ => 500

/-! Following a path. -/

/-- Under the name, if there is one, stands what is needed. -/
def Under (name : String) (needed : Json → Prop) : Json → Prop
  | .obj fields => ∀ value, Dict.find? fields name = some value → needed value
  | _ => False

/-- What comes first, if anything, is what is needed; in an object nothing does. -/
def First (needed : Json → Prop) : Json → Prop
  | .obj _ => True
  | .arr items => ∀ item, items.head? = some item → needed item
  | .str text => ∀ char, text.toList.head? = some char → needed (.str (String.singleton char))
  | _ => False

def IsText : Json → Prop
  | .str _ => True
  | _ => False

/-- Every step down to the answer is taken in an object or a list, as far as
the path goes, and at its end is a text. -/
def Readable : Json → Prop :=
  Under "choices" (First (Under "message" (Under "content" IsText)))

/-- A string or a `RuntimeError`. -/
def Settles (asked : Except PyError String) : Prop :=
  (∃ answer, asked = .ok answer) ∨ ∃ detail, asked = .error (.runtimeError detail)

/-- Settled once the expected failures are reported. -/
def Caught (text : String) (read : Except PyError String) : Prop :=
  Settles (read.mapError (unexpectedShape text))

theorem settles_iff {asked : Except PyError String} :
    Settles asked ↔ ∀ error, asked = .error error → ∃ detail, error = .runtimeError detail := by
  unfold Settles
  cases asked with
  | ok answer => simp
  | error error => simp

theorem caught_error (text : String) (error : PyError) :
    Caught text (.error error) ↔ error ≠ .typeError ∧ error ≠ .attributeError := by
  rw [Caught, settles_iff]
  cases error <;> simp [Except.mapError, unexpectedShape]

section Reading
variable {text : String} {rest : Json → Except PyError String}

theorem caught_ok_bind (value : Json) :
    Caught text (.ok value >>= rest) ↔ Caught text (rest value) := Iff.rfl

theorem caught_error_bind (error : PyError) :
    Caught text (.error error >>= rest) ↔ error ≠ .typeError ∧ error ≠ .attributeError :=
  caught_error text error

theorem caught_subscriptName (name : String) (value : Json) :
    Caught text (subscriptName name value >>= rest) ↔
      Under name (fun found => Caught text (rest found)) value := by
  unfold subscriptName Under
  cases value with
  | obj fields =>
      dsimp only
      cases found : Dict.find? fields name with
      | none =>
          dsimp only
          rw [caught_error_bind]
          simp
      | some value =>
          dsimp only
          rw [caught_ok_bind]
          simp
  | _ => simp [caught_error_bind]

theorem caught_subscriptFirst (value : Json) :
    Caught text (subscriptFirst value >>= rest) ↔
      First (fun found => Caught text (rest found)) value := by
  unfold subscriptFirst First
  cases value with
  | obj fields => simp [caught_error_bind]
  | arr items =>
      cases items with
      | nil => simp [caught_error_bind]
      | cons item items => simp [caught_ok_bind]
  | str content =>
      dsimp only
      cases content.toList with
      | nil => simp [caught_error_bind]
      | cons char chars => simp [caught_ok_bind]
  | _ => simp [caught_error_bind]

theorem caught_stripText (value : Json) : Caught text (stripText value) ↔ IsText value := by
  cases value with
  | str content => exact iff_of_true (.inl ⟨_, rfl⟩) trivial
  | _ => exact iff_of_false (fun caught => ((caught_error text _).mp caught).2 rfl) id

theorem caught_readAnswer (value : Json) :
    Caught text (readAnswer (.json value)) ↔ Readable value := by
  have isRead : readAnswer (.json value) = (subscriptName "choices" value >>= fun choices =>
      subscriptFirst choices >>= fun choice => subscriptName "message" choice >>= fun message =>
        subscriptName "content" message >>= stripText) := rfl
  rw [isRead]
  simp only [caught_subscriptName, caught_subscriptFirst, caught_stripText]
  rfl

end Reading

/-- What the caller of the chat is told: an answer or a bad gateway. -/
structure TwoOutcomes (asked : Except PyError String) : Prop where
  settles : Settles asked
  status : chatStatus asked = 200 ∨ chatStatus asked = 502

theorem twoOutcomes_iff_settles {asked : Except PyError String} :
    TwoOutcomes asked ↔ Settles asked := by
  constructor
  · exact TwoOutcomes.settles
  · intro settles
    refine ⟨settles, ?_⟩
    cases settles with
    | inl answered =>
        obtain ⟨answer, rfl⟩ := answered
        exact .inl rfl
    | inr raised =>
        obtain ⟨detail, rfl⟩ := raised
        exact .inr rfl

/-- With a key, the call returns a text or raises a `RuntimeError` exactly when
a JSON body of a response with status 200 is readable. -/
theorem askGroq_twoOutcomes_iff {config : GroqConfig} (configured : config.apiKey ≠ "")
    (post : GroqPost → Transport) (question groundingContext : String) :
    TwoOutcomes (askGroq config post question groundingContext) ↔
      ∀ response value, post (groqPost config question groundingContext) = .response response →
        response.statusCode = 200 → response.body = .json value → Readable value := by
  rw [twoOutcomes_iff_settles, askGroq, if_neg configured]
  cases came : post (groqPost config question groundingContext) with
  | httpError detail => exact iff_of_true (.inr ⟨_, rfl⟩) nofun
  | response response =>
      dsimp only
      by_cases accepted : response.statusCode = 200
      · rw [if_neg (not_not.mpr accepted)]
        cases isBody : response.body with
        | json value =>
            apply (caught_readAnswer value).trans
            refine ⟨?_, fun readable => readable _ _ rfl accepted isBody⟩
            rintro readable _ other ⟨⟩ _ isOther
            rw [isBody] at isOther
            cases isOther
            exact readable
        | notJson =>
            refine iff_of_true (.inr ⟨_, rfl⟩) ?_
            rintro _ value ⟨⟩ _ isJson
            exact absurd (isBody.symm.trans isJson) (by simp)
        | tooDeep =>
            refine iff_of_true (.inr ⟨_, rfl⟩) ?_
            rintro _ value ⟨⟩ _ isJson
            exact absurd (isBody.symm.trans isJson) (by simp)
      · rw [if_pos accepted]
        refine iff_of_true (.inr ⟨_, rfl⟩) ?_
        rintro _ value ⟨⟩ isAccepted
        exact absurd isAccepted accepted

/-! The route. -/

/-- The detail of a `RuntimeError`. -/
def PyError.detail : PyError → String
  | .runtimeError detail => detail
  | _ => ""

/-- The call as the route handles it when it settles. -/
def settled (ask : String → String → Except PyError String) : AskGroq :=
  fun question groundingContext => (ask question groundingContext).mapError PyError.detail

/-- A settled call is answered with the status it has here. -/
theorem execute_askAbout_settled {ask : String → String → Except PyError String}
    {question : String} {grounding : Company × List BalanceSheet} {asked : Except PyError String}
    (isAsked : ask question (buildGroundingContext grounding.1.name grounding.1.ticker
      grounding.2) = asked) (settles : Settles asked) (db : Database) (store : Store) :
    (∃ answer, chatStatus asked = 200 ∧
        (askAbout (settled ask) question grounding).execute db store = (.ok answer, store)) ∨
      ∃ detail, chatStatus asked = 502 ∧
        (askAbout (settled ask) question grounding).execute db store =
          (.error (.httpException 502 detail), store) := by
  unfold askAbout settled
  rw [isAsked]
  cases settles with
  | inl answered =>
      obtain ⟨answer, rfl⟩ := answered
      exact .inl ⟨answer, rfl, rfl⟩
  | inr raised =>
      obtain ⟨detail, rfl⟩ := raised
      exact .inr ⟨detail, rfl, rfl⟩

def groqConfig : GroqConfig :=
  ⟨"key", "https://api.groq.com/openai/v1/chat/completions", "llama-3.1-8b-instant"⟩

/-- `{"choices": [{"message": {"content": content}}]}` with status 200. -/
def answering (content : Json) : GroqPost → Transport := fun _ =>
  .response ⟨200, "", .json (.obj [("choices", .arr [.obj [("message",
    .obj [("content", content)])]])])⟩

theorem askGroq_twoOutcomes_answer :
    TwoOutcomes (askGroq groqConfig (answering (.str "  the answer  ")) "question" "context") := by
  have configured : groqConfig.apiKey ≠ "" := by decide
  apply (askGroq_twoOutcomes_iff configured _ _ _).mpr
  rintro _ _ ⟨⟩ _ ⟨⟩ choices ⟨⟩ choice ⟨⟩ message ⟨⟩ content ⟨⟩
  trivial

/-- An answer without content: `None` has no `strip`. -/
theorem askGroq_twoOutcomes_null :
    ¬∀ (config : GroqConfig) (post : GroqPost → Transport) (question groundingContext : String),
      config.apiKey ≠ "" → TwoOutcomes (askGroq config post question groundingContext) := by
  intro always
  have settles := (always groqConfig (answering .null) "question" "context" (by decide)).settles
  have raised : askGroq groqConfig (answering .null) "question" "context" =
      .error .attributeError := rfl
  obtain ⟨detail, impossible⟩ := settles_iff.mp settles _ raised
  cases impossible

end BalanceSheetAnalysis
