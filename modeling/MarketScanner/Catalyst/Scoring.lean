import MarketScanner.Catalyst.News
import MarketScanner.Config.Settings
import MarketScanner.Library.WeightedMean
import MarketScanner.Python.Text
import MarketScanner.Signals.Fusion

/-! From articles to the news component of the fusion. Keywords make the event type and the sentiment of
an article, the clock its freshness, and what is not stale is averaged by materiality. -/
namespace MarketScanner.Catalyst
open MarketScanner.Library MarketScanner.Python MarketScanner.Config MarketScanner.Signals

inductive CatalystType
  | results | orderWin | mergerAcquisition | regulatory | brokerAction | managementCommentary | dividend
  | sectorCatalyst | other
  deriving DecidableEq, Repr

def CatalystType.value : CatalystType → String
  | results => "RESULTS"
  | orderWin => "ORDER_WIN"
  | mergerAcquisition => "M&A"
  | regulatory => "REGULATORY"
  | brokerAction => "BROKER_ACTION"
  | managementCommentary => "MANAGEMENT_COMMENTARY"
  | dividend => "DIVIDEND"
  | sectorCatalyst => "SECTOR_CATALYST"
  | other => "OTHER"

inductive Sentiment
  | positive | negative | neutral
  deriving DecidableEq, Repr

def Sentiment.value : Sentiment → String
  | positive => "POSITIVE"
  | negative => "NEGATIVE"
  | neutral => "NEUTRAL"

inductive Materiality
  | high | medium | low
  deriving DecidableEq, Repr

inductive Freshness
  | breaking | recent | stale
  deriving DecidableEq, Repr

structure NormalizedNewsItem where
  symbol : String
  headline : String
  source : String
  publishedAt : DateTime
  eventType : CatalystType
  sentiment : Sentiment
  materiality : Materiality
  freshness : Freshness
  computedAt : DateTime
  articleUrl : Option String

/-- The windows of the settings, in minutes and in hours. -/
structure NewsWindows where
  breakingMinutes : ℤ := 30
  staleHours : ℤ := 24

/-- In the order of precedence: the first group with a keyword in the text gives the type. -/
def eventTypeKeywords : List (CatalystType × List String) :=
  [(.results,[
      "quarterly results","q1 results","q2 results","q3 results","q4 results","net profit","net loss",
      "revenue rises","revenue falls","beats estimates","misses estimates","earnings"]),
    (.mergerAcquisition,[
      "acquisition","acquires","to acquire","merger","merges with","stake sale","stake purchase",
      "takeover","amalgamation"]),
    (.regulatory,[
      "sebi","rbi","regulatory","penalty","show cause notice","investigation","probe",
      "compliance order","ban on","cci approval","competition commission"]),
    (.orderWin,[
      "order win","bags order","wins order","wins contract","secures contract","receives order",
      "order from","contract worth"]),
    (.brokerAction,[
      "upgrade","downgrade","target price","buy rating","sell rating","outperform","underperform",
      "initiates coverage","maintains buy","maintains sell"]),
    (.dividend,[
      "dividend","interim dividend","final dividend","special dividend","ex-dividend","record date"]),
    (.managementCommentary,[
      "ceo says","md says","chairman says","management said","guidance","outlook comment",
      "in an interview"]),
    (.sectorCatalyst,[
      "sector","industry","nifty it","nifty bank","nifty auto","nifty pharma","nifty metal","peers",
      "index surges","index falls"])]

def positiveKeywords : List String := [
  "surge","surges","jump","jumps","soar","soars","rally","rallies","gain","gains","beats estimates",
  "profit rises","profit up","upgrade","wins","bags order","record high","outperform"]

def negativeKeywords : List String := [
  "fall","falls","falling","drop","drops","tumble","tumbles","plunge","plunges","decline","declines",
  "loss","misses estimates","profit falls","downgrade","penalty","probe","investigation","underperform",
  "sell-off"]

def containsAny (text : String) (keywords : List String) : Bool := keywords.any (occurs text)

section Classifier
variable (lower : String → String)

def classifyEventType (headline summary : String) : CatalystType :=
  let text := lower (headline ++ " " ++ summary)
  ((eventTypeKeywords.find? fun group => containsAny text group.2).map Prod.fst).getD .other

def classifySentiment (headline summary : String) : Sentiment :=
  let text := lower (headline ++ " " ++ summary)
  let positiveHits := positiveKeywords.countP (occurs text)
  let negativeHits := negativeKeywords.countP (occurs text)
  if negativeHits < positiveHits then .positive
  else if positiveHits < negativeHits then .negative
  else .neutral

/-- A time that is still to come counts as now. -/
def classifyFreshness (publishedAt now : DateTime) (breakingWindow staleWindow : TimeDelta) : Freshness :=
  let age := max 0 (now.utc-publishedAt.utc)
  if age ≤ breakingWindow then .breaking else if age ≤ staleWindow then .recent else .stale

def scoreMateriality : CatalystType → Materiality
  | .results | .mergerAcquisition | .regulatory => .high
  | .orderWin | .dividend | .brokerAction => .medium
  | .managementCommentary | .sectorCatalyst | .other => .low

def normalize (windows : NewsWindows) (now : DateTime) (article : RawNewsArticle) : NormalizedNewsItem :=
  let eventType := classifyEventType lower article.headline article.summary
  { symbol := article.symbol
    headline := article.headline
    source := article.source
    publishedAt := article.publishedAt
    eventType
    sentiment := classifySentiment lower article.headline article.summary
    materiality := scoreMateriality eventType
    freshness := classifyFreshness article.publishedAt now (TimeDelta.minutes windows.breakingMinutes)
      (TimeDelta.minutes (60*windows.staleHours))
    computedAt := now
    articleUrl := article.articleUrl }

end Classifier

def materialityWeight : Materiality → ℚ
  | .high => 3
  | .medium => 2
  | .low => 1

def sentimentValue : Sentiment → ℚ
  | .positive => 1
  | .negative => -1
  | .neutral => 0

/-- `moment.strftime('%Y-%m-%d %H:%M UTC')` -/
def stamp (moment : DateTime) : String :=
  let minutes := (moment.time / 60000000).toNat
  moment.date.isoformat ++ " " ++ padLeft 2 (minutes/60) ++ ":" ++ padLeft 2 (minutes % 60) ++ " UTC"

def newsReason (item : NormalizedNewsItem) : String :=
  "News: " ++ item.eventType.value ++ " (" ++ item.sentiment.value ++ ") — " ++ item.headline ++
    " [" ++ item.source ++ ", " ++ stamp item.publishedAt ++ "]"

section Score
variable (lower : String → String) (settings : Settings) (windows : NewsWindows)

def activeItems (now : DateTime) (articles : List RawNewsArticle) : List NormalizedNewsItem :=
  (articles.map (normalize lower windows now)).filter fun item => decide (item.freshness ≠ .stale)

/-- `_score_news` -/
def scoreNews (now : DateTime) (provided : Option (List RawNewsArticle)) : ComponentScore :=
  let weight := settings.signalFusionWeightNews
  match provided with
  | none => missing "news" weight "no NewsProvider supplied (live-call opt-in)"
  | some articles =>
    let active := activeItems lower windows now articles
    if active = [] then missing "news" weight "no recent (non-stale) news found"
    else
      let totalWeight := (active.map fun item => materialityWeight item.materiality).sum
      let weightedSentiment := (active.map fun item =>
        sentimentValue item.sentiment*materialityWeight item.materiality).sum/totalWeight
      { name := "news"
        status := .available
        score := some (clamp (50+weightedSentiment*50))
        weight := weight
        reasons := (active.take 3).map newsReason
        score_none_iff := by simp }

variable {lower settings windows} {now now' : DateTime} {articles : List RawNewsArticle} {a : RawNewsArticle}

/-- The sentiments of the active items with their weights. -/
def sentiments (lower : String → String) (windows : NewsWindows) (now : DateTime)
    (articles : List RawNewsArticle) : List (ℚ × ℚ) :=
  (activeItems lower windows now articles).map fun item =>
    (sentimentValue item.sentiment,materialityWeight item.materiality)

theorem materialityWeight_pos (m : Materiality) : 0 < materialityWeight m := by
  cases m <;> norm_num [materialityWeight]

theorem sentimentValue_mem (s : Sentiment) : -1 ≤ sentimentValue s ∧ sentimentValue s ≤ 1 := by
  cases s <;> norm_num [sentimentValue]

theorem sentiments_spec {x : ℚ × ℚ} (h : x ∈ sentiments lower windows now articles) :
    (-1 ≤ x.1 ∧ x.1 ≤ 1) ∧ 0 < x.2 := by
  obtain ⟨item,-,rfl⟩ := List.mem_map.mp h
  exact ⟨sentimentValue_mem _,materialityWeight_pos _⟩

theorem totalWeight_sentiments (h : sentiments lower windows now articles ≠ []) :
    0 < totalWeight (sentiments lower windows now articles) := by
  refine List.sum_pos _ (fun w hw => ?_) (by simpa using h)
  obtain ⟨x,hx,rfl⟩ := List.mem_map.mp hw
  exact (sentiments_spec hx).2

/-- The clamp does nothing: the score is the mean sentiment on a scale from 0 to 100. -/
theorem score_scoreNews : (scoreNews lower settings windows now (some articles)).score =
    if sentiments lower windows now articles = [] then none
    else some (50+weightedMean (sentiments lower windows now articles)*50) := by
  have hempty : sentiments lower windows now articles = [] ↔ activeItems lower windows now articles = [] :=
    List.map_eq_nil_iff
  unfold scoreNews
  dsimp only
  by_cases hactive : activeItems lower windows now articles = []
  · rw [if_pos hactive, if_pos (hempty.mpr hactive)]
    rfl
  · rw [if_neg hactive, if_neg (mt hempty.mp hactive)]
    have htotal := totalWeight_sentiments (mt hempty.mp hactive)
    have hweights : ∀ x ∈ sentiments lower windows now articles, 0 ≤ x.2 := fun x hx => (sentiments_spec hx).2.le
    have hlow := le_weightedMean hweights htotal fun x hx => (sentiments_spec hx).1.1
    have hhigh := weightedMean_le hweights htotal fun x hx => (sentiments_spec hx).1.2
    have hmean : weightedMean (sentiments lower windows now articles) =
        ((activeItems lower windows now articles).map fun item =>
          sentimentValue item.sentiment*materialityWeight item.materiality).sum/
        ((activeItems lower windows now articles).map fun item => materialityWeight item.materiality).sum := by
      simp only [weightedMean, weightedSum, totalWeight, sentiments, List.map_map, Function.comp_def]
    dsimp only
    rw [← hmean, clamp, min_eq_right (by linarith), max_eq_right (by linarith)]

theorem activeItems_append (lower : String → String) (windows : NewsWindows) (now : DateTime)
    (before after : List RawNewsArticle) : activeItems lower windows now (before ++ after) =
      activeItems lower windows now before ++ activeItems lower windows now after := by
  rw [activeItems, List.map_append, List.filter_append, activeItems, activeItems]

theorem activeItems_cons (lower : String → String) (windows : NewsWindows) (now : DateTime)
    (a : RawNewsArticle) (after : List RawNewsArticle) : activeItems lower windows now (a::after) =
      if (normalize lower windows now a).freshness = .stale then activeItems lower windows now after
      else normalize lower windows now a::activeItems lower windows now after := by
  rw [activeItems, List.map_cons, List.filter_cons]
  by_cases hstale : (normalize lower windows now a).freshness = .stale <;> simp [hstale, activeItems]

/-- A stale article is as if it were not there. -/
theorem activeItems_of_stale {before after : List RawNewsArticle}
    (h : (normalize lower windows now a).freshness = .stale) :
    activeItems lower windows now (before ++ a::after) = activeItems lower windows now (before ++ after) := by
  rw [activeItems_append, activeItems_cons, if_pos h, activeItems_append]

/-- Any other adds its sentiment to the mean, wherever it stands. -/
theorem weightedMean_sentiments {before after : List RawNewsArticle}
    (h : (normalize lower windows now a).freshness ≠ .stale) :
    weightedMean (sentiments lower windows now (before ++ a::after)) =
      weightedMean (sentiments lower windows now (before ++ after) ++
        [(sentimentValue (normalize lower windows now a).sentiment,
          materialityWeight (normalize lower windows now a).materiality)]) := by
  apply weightedMean_perm
  simp only [sentiments, activeItems_append, activeItems_cons, if_neg h, List.map_append, List.map_cons]
  exact List.perm_middle.trans (List.perm_append_singleton _ _).symm

theorem scaled_scoreNews {x : ℚ} (hx : (scoreNews lower settings windows now (some articles)).score = some x) :
    0 ≤ x ∧ x ≤ 100 := by
  rw [score_scoreNews, Option.ite_none_left_eq_some, Option.some.injEq] at hx
  obtain ⟨hne,rfl⟩ := hx
  have hweights : ∀ x ∈ sentiments lower windows now articles, 0 ≤ x.2 := fun x hx => (sentiments_spec hx).2.le
  have htotal := totalWeight_sentiments hne
  have hlow := le_weightedMean hweights htotal fun x hx => (sentiments_spec hx).1.1
  have hhigh := weightedMean_le hweights htotal fun x hx => (sentiments_spec hx).1.2
  constructor <;> linarith

/-- What is stale stays stale. -/
theorem stale_later (h : now ≤ now') (hstale : (normalize lower windows now a).freshness = .stale) :
    (normalize lower windows now' a).freshness = .stale := by
  simp only [normalize, classifyFreshness] at hstale ⊢
  have hage : max 0 (now.utc-a.publishedAt.utc) ≤ max 0 (now'.utc-a.publishedAt.utc) :=
    max_le_max_left 0 (Int.sub_le_sub_right h _)
  split_ifs at hstale with hbreaking hrecent
  rw [if_neg (fun hle => hbreaking (hage.trans hle)), if_neg (fun hle => hrecent (hage.trans hle))]

theorem status_scoreNews : (scoreNews lower settings windows now (some articles)).status = .missing ↔
    ∀ a ∈ articles, (normalize lower windows now a).freshness = .stale := by
  unfold scoreNews
  dsimp only
  by_cases hactive : activeItems lower windows now articles = []
  · rw [if_pos hactive]
    simpa [missing, activeItems] using hactive
  · rw [if_neg hactive]
    simpa [activeItems] using hactive

/-- The news component lies on the scale; a stale article leaves it as it is, an article of positive
sentiment never lowers it and one of negative sentiment never raises it, wherever it stands and whatever its
materiality; and once all the articles are stale it is missing from then on. -/
theorem scoreNews_laws (lower : String → String) (settings : Settings) (windows : NewsWindows)
    (now : DateTime) (before after : List RawNewsArticle) :
    (∀ x, (scoreNews lower settings windows now (some (before ++ after))).score = some x → 0 ≤ x ∧ x ≤ 100) ∧
    (∀ a, (normalize lower windows now a).freshness = .stale →
      scoreNews lower settings windows now (some (before ++ a::after)) =
        scoreNews lower settings windows now (some (before ++ after))) ∧
    (∀ a x y, (scoreNews lower settings windows now (some (before ++ after))).score = some x →
      (scoreNews lower settings windows now (some (before ++ a::after))).score = some y →
      ((normalize lower windows now a).sentiment = .positive → x ≤ y) ∧
        ((normalize lower windows now a).sentiment = .negative → y ≤ x)) ∧
    ∀ now', now ≤ now' → (scoreNews lower settings windows now (some (before ++ after))).status = .missing →
      (scoreNews lower settings windows now' (some (before ++ after))).status = .missing := by
  have hweights : ∀ x ∈ sentiments lower windows now (before ++ after), 0 ≤ x.2 :=
    fun x hx => (sentiments_spec hx).2.le
  refine ⟨fun x hx => scaled_scoreNews hx,?_,?_,?_⟩
  · intro a hstale
    simp only [scoreNews, activeItems_of_stale hstale]
  · intro a x y hx hy
    rw [score_scoreNews, Option.ite_none_left_eq_some, Option.some.injEq] at hx hy
    obtain ⟨hne,rfl⟩ := hx
    obtain ⟨-,rfl⟩ := hy
    have htotal := totalWeight_sentiments hne
    by_cases hstale : (normalize lower windows now a).freshness = .stale
    · have hsame : sentiments lower windows now (before ++ a::after) =
          sentiments lower windows now (before ++ after) := by
        simp only [sentiments, activeItems_of_stale hstale]
      rw [hsame]
      exact ⟨fun _ => le_refl _,fun _ => le_refl _⟩
    · have hw := (materialityWeight_pos (normalize lower windows now a).materiality).le
      rw [weightedMean_sentiments hstale]
      constructor <;> intro hsentiment <;> rw [hsentiment]
      · have hraised := weightedMean_le_concat hweights hw htotal fun x hx => (sentiments_spec hx).1.2
        have hpositive : sentimentValue .positive = 1 := rfl
        rw [hpositive]
        linarith
      · have hlowered := weightedMean_concat_le hweights hw htotal fun x hx => (sentiments_spec hx).1.1
        have hnegative : sentimentValue .negative = -1 := rfl
        rw [hnegative]
        linarith
  · intro now' hlater hmissing
    rw [status_scoreNews] at hmissing ⊢
    exact fun a ha => stale_later hlater (hmissing a ha)

end Score
end MarketScanner.Catalyst
