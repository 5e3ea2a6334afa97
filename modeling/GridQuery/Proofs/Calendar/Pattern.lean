import GridQuery.Calendar.Pattern

/-!
# Items of the usual patterns

What the usual patterns of days and moments ask for, item by item.  Days are
written with hyphens, with slashes or with points, and moments with a letter or
blanks before the time of day.
-/

namespace GridQuery.Calendar

theorem items?_hyphenatedDay :
    items? "%Y-%m-%d".toList = some dayItems := by
  cbv

theorem items?_slashedDay :
    items? "%m/%d/%Y".toList =
      some [.number .month, .literal '/', .number .day, .literal '/',
        .number .year] := by
  cbv

theorem items?_pointedDay :
    items? "%d.%m.%Y".toList =
      some [.number .day, .literal '.', .number .month, .literal '.',
        .number .year] := by
  cbv

theorem items?_letteredMoment :
    items? "%Y-%m-%dT%H:%M:%S%.f".toList =
      some (dayItems ++ .literal 'T' :: clockItems ++ [.fraction]) := by
  cbv

theorem items?_spacedMoment :
    items? "%Y-%m-%d %H:%M:%S%.f".toList =
      some (dayItems ++ .blanks :: clockItems ++ [.fraction]) := by
  cbv

theorem items?_shortMoment :
    items? "%Y-%m-%dT%H:%M".toList =
      some (dayItems ++
        [.literal 'T', .number .hour, .literal ':', .number .minute]) := by
  cbv

end GridQuery.Calendar
