import PlotMarkup.Proofs.Curve.Account

namespace PlotMarkup.Curve

variable {c c' : Curve} {f : Formula} {domain : Domain}

end PlotMarkup.Curve
