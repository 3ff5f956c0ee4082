import TradingSignals.Catalog.Catalog

namespace TradingSignals

namespace BuiltIn

/-- A stream of market data: no arguments, no inputs. -/
def raw (id name description : String) : Capability where
  id := id
  name := name
  category := "Data"
  description := description
  signalType := "SignalValueRAW"

/-- An indicator with one argument, a number of bars of at least one. -/
def indicator (id name signalType description : String) (aliases : List String)
    (arg argDescription : String) (children : List String) : Capability where
  id := id
  name := name
  category := "Indicator"
  description := description
  signalType := signalType
  aliases := aliases
  requiredArgs := [{ key := arg, min := some (.int 1), description := argDescription }]
  requiredChildren := children.length
  childDescriptions := children

/-- A rule: compares two signals and combines the outcome with a second comparison. -/
def parametric : Capability where
  id := "parametric"
  name := "Parametric"
  category := "Logic"
  description := "Composite signal that evaluates rules and combines them with " ++
    "logical operations (AND, OR, etc.)"
  signalType := parametricType
  aliases := ["Rule", "Condition", "Comparison"]
  requiredArgs :=
    [{ key := "Rule1 Base Offset", description := "Offset for first signal in Rule1 (bars)" },
     { key := "Rule1 Second Offset",
       description := "Offset for second signal in Rule1 (bars)" },
     { key := "Rule1 Value", optional := true,
       description := "Constant value for Rule1 if comparing to value" }]
  requiredChildren := 2
  childDescriptions :=
    ["First signal (Rule1 left side)", "Second signal or value (Rule1 right side)"]

/-- The curated signals. Their order is that of searches, and of aliases they share. -/
def capabilities : List Capability :=
  [raw "raw.close" "Close" "Closing price",
   raw "raw.open" "Open" "Opening price",
   raw "raw.high" "High" "High price",
   raw "raw.low" "Low" "Low price",
   raw "raw.volume" "Volume" "Trading volume",
   raw "raw.vix" "VIX" "VIX volatility index",
   indicator "sma" "SMA" "SignalValueSMA"
     "Simple Moving Average - calculates average price over a period"
     ["Simple Moving Average", "Moving Average"]
     "Length" "Period length" ["Source signal (e.g., Close)"],
   indicator "ema" "EMA" "SignalValueEMA"
     "Exponential Moving Average - gives more weight to recent prices"
     ["Exponential Moving Average"]
     "Length" "Period length" ["Source signal (e.g., Close)"],
   indicator "rsi" "RSI" "SignalValueRSI"
     "Relative Strength Index - momentum oscillator (0-100)"
     ["Relative Strength Index"]
     "Length" "Period length (typically 14)" ["Source signal (typically Close)"],
   indicator "atr" "ATR" "SignalValueRangeStochasticATR"
     "Average True Range - measures market volatility"
     ["Average True Range"]
     "Length" "Period length (typically 14)" ["High signal", "Low signal"],
   indicator "highest" "Highest" "SignalValueHighest"
     "Returns the highest value over a lookback period"
     ["Max", "High"]
     "Length" "Lookback period" ["Source signal"],
   indicator "lowest" "Lowest" "SignalValueLowest"
     "Returns the lowest value over a lookback period"
     ["Min", "Low"]
     "Length" "Lookback period" ["Source signal"],
   indicator "percentchange" "PercentChange" "SignalValuePercentChange"
     "Calculates percentage change over a specified depth (bars)"
     ["Percent Change", "PctChange"]
     "Depth" "Number of bars back to compare" ["Source signal"],
   parametric,
   indicator "macd" "MACD" "SignalValueMACD"
     "Moving Average Convergence Divergence"
     []
     "Length" "Signal smoothing length" ["Short EMA", "Long EMA"]]

end BuiltIn

def Catalog.builtIn : Catalog := .ofList BuiltIn.capabilities

end TradingSignals
