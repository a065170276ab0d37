/-!
# Calendar

The text of the module with dates and times of day. Every line of
them is indented by two, and they hold no braces.
-/

namespace SnippetRunner.Library

/-- The text of `datetime`. -/
def datetimeText : String := r#"
  from math import modf as _modf
  from operator import index as _index

  MINYEAR, MAXYEAR = 1, 9999
  _month_names = [None, 'Jan', 'Feb', 'Mar', 'Apr', 'May', 'Jun', 'Jul', 'Aug', 'Sep', 'Oct',
                  'Nov', 'Dec']
  _day_names = [None, 'Mon', 'Tue', 'Wed', 'Thu', 'Fri', 'Sat', 'Sun']
  _full_months = ['January', 'February', 'March', 'April', 'May', 'June', 'July', 'August',
                  'September', 'October', 'November', 'December']
  _full_days = ['Monday', 'Tuesday', 'Wednesday', 'Thursday', 'Friday', 'Saturday', 'Sunday']
  _month_days = [31, 28, 31, 30, 31, 30, 31, 31, 30, 31, 30, 31]

  def _is_leap(year):
      return year % 4 == 0 and (year % 100 != 0 or year % 400 == 0)

  def _days_in(year, month):
      return 29 if month == 2 and _is_leap(year) else _month_days[month - 1]

  def _days_before_year(year):
      y = year - 1
      return y * 365 + y // 4 - y // 100 + y // 400

  def _days_before_month(year, month):
      return sum(_month_days[:month - 1]) + (month > 2 and _is_leap(year))

  def _ordinal(year, month, day):
      return _days_before_year(year) + _days_before_month(year, month) + day

  def _from_ordinal(n):
      n -= 1
      n400, n = divmod(n, 146097)
      n100, n = divmod(n, 36524)
      n4, n = divmod(n, 1461)
      n1, n = divmod(n, 365)
      year = n400 * 400 + n100 * 100 + n4 * 4 + n1 + 1
      if n1 == 4 or n100 == 4:
          return year - 1, 12, 31
      month = 1
      while n >= _days_in(year, month):
          n -= _days_in(year, month)
          month += 1
      return year, month, n + 1

  def _whole(v):
      v = _index(v)
      if not -2 ** 63 <= v < 2 ** 63:
          raise OverflowError('Python int too large to convert to C long')
      if v > 2147483647:
          raise OverflowError('signed integer is greater than maximum')
      if v < -2147483648:
          raise OverflowError('signed integer is less than minimum')
      return v

  def _taken(args, kwargs, names, required, whole, positional=None, title='function',
             place='this function', absent=None):
      n, given = len(args), len(args) + len(kwargs)
      if given > len(names):
          raise TypeError('%s takes at most %d %sarguments (%d given)'
                          % (title, len(names), '' if n else 'keyword ', given))
      if positional is not None and n > positional:
          raise TypeError('%s takes at most %d positional arguments (%d given)'
                          % (title, positional, n))
      out = []
      for i, name in enumerate(names):
          if i < n or name in kwargs:
              value = args[i] if i < n else kwargs[name]
              out.append(_whole(value) if i in whole else value)
          elif i < required:
              raise TypeError("%s missing required argument '%s' (pos %d)" % (title, name, i + 1))
          else:
              out.append(0 if i in whole else absent)
      for name in kwargs:
          if name not in names:
              raise TypeError("'%s' is an invalid keyword argument for %s" % (name, place))
          if names.index(name) < n:
              raise TypeError("argument for %s given by name ('%s') and position (%d)"
                              % (title, name, names.index(name) + 1))
      return out

  class _Field:
      def __init__(self, key):
          self._key = key
      def __set_name__(self, owner, name):
          self._owner, self._name = owner, name
      def __get__(self, holder, kind=None):
          return self if holder is None else getattr(holder, self._key)
      def __set__(self, holder, value):
          raise AttributeError("attribute '%s' of '%s' objects is not writable"
                               % (self._name, self._owner._complaint_name))
      def __delete__(self, holder):
          self.__set__(holder, None)
      def __repr__(self):
          return "<attribute '%s' of '%s' objects>" % (self._name, self._owner._complaint_name)
  _Field.__name__ = _Field.__qualname__ = 'getset_descriptor'
  _Field.__module__ = 'builtins'

  class _Member(_Field):
      def __set__(self, holder, value):
          raise AttributeError('readonly attribute')
      def __repr__(self):
          return "<member '%s' of '%s' objects>" % (self._name, self._owner._complaint_name)
  _Member.__name__ = _Member.__qualname__ = 'member_descriptor'
  _Member.__module__ = 'builtins'

  def _check_date(year, month, day):
      if not 1 <= year <= 9999:
          raise ValueError('year %d is out of range' % year)
      if not 1 <= month <= 12:
          raise ValueError('month must be in 1..12')
      if not 1 <= day <= _days_in(year, month):
          raise ValueError('day is out of range for month')
      return year, month, day

  def _check_time(hour, minute, second, microsecond, fold):
      parts = [hour, minute, second, microsecond]
      for part, limit, name in zip(parts, (24, 60, 60, 1000000),
                                   ('hour', 'minute', 'second', 'microsecond')):
          if not 0 <= part < limit:
              raise ValueError('%s must be in 0..%d' % (name, limit - 1))
      if fold not in (0, 1):
          raise ValueError('fold must be either 0 or 1')
      return parts

  def _check_zone(tz):
      if tz is not None and not isinstance(tz, tzinfo):
          raise TypeError("tzinfo argument must be None or of a tzinfo subclass, not type '%s'"
                          % type(tz).__name__)

  def _offset_text(offset, sep=':'):
      if offset is None:
          return ''
      sign = '+'
      if offset.days < 0:
          sign, offset = '-', -offset
      total = offset.days * 86400 + offset.seconds
      text = '%s%02d%s%02d' % (sign, total // 3600, sep, total // 60 % 60)
      if total % 60 or offset.microseconds:
          text += sep + '%02d' % (total % 60)
      if offset.microseconds:
          text += '.%06d' % offset.microseconds
      return text

  def _iso_week_one(year):
      first = _ordinal(year, 1, 1)
      weekday = (first + 6) % 7
      monday = first - weekday
      return monday + 7 if weekday > 3 else monday

  def _time_text(hour, minute, second, microsecond, timespec):
      forms = dict(hours='%02d' % hour, minutes='%02d:%02d' % (hour, minute),
                   seconds='%02d:%02d:%02d' % (hour, minute, second),
                   milliseconds='%02d:%02d:%02d.%03d' % (hour, minute, second,
                                                         microsecond // 1000),
                   microseconds='%02d:%02d:%02d.%06d' % (hour, minute, second, microsecond))
      if timespec == 'auto':
          timespec = 'microseconds' if microsecond else 'seconds'
      if timespec not in forms:
          raise ValueError('Unknown timespec value')
      return forms[timespec]

  def _formatted(format, moment):
      if not isinstance(format, str):
          raise TypeError('strftime() argument 1 must be str, not %s' % _named(format))
      # moment has a date, a time of day, an offset and the name of a zone
      day, clock, offset, zone = moment
      parts, place = [], 0
      year_day = _ordinal(day.year, day.month, day.day) - _days_before_year(day.year)
      week = day.weekday()
      while place < len(format):
          c = format[place]
          place += 1
          if c != '%' or place == len(format):
              parts.append(c)
              continue
          c = format[place]
          place += 1
          if c == 'Y':
              parts.append('%d' % day.year)
          elif c == 'm':
              parts.append('%02d' % day.month)
          elif c == 'd':
              parts.append('%02d' % day.day)
          elif c == 'e':
              parts.append('%2d' % day.day)
          elif c == 'H':
              parts.append('%02d' % clock.hour)
          elif c == 'I':
              parts.append('%02d' % ((clock.hour + 11) % 12 + 1))
          elif c == 'l':
              parts.append('%2d' % ((clock.hour + 11) % 12 + 1))
          elif c == 'k':
              parts.append('%2d' % clock.hour)
          elif c == 'M':
              parts.append('%02d' % clock.minute)
          elif c == 'S':
              parts.append('%02d' % clock.second)
          elif c == 'f':
              parts.append('%06d' % clock.microsecond)
          elif c == 'y':
              parts.append('%02d' % (day.year % 100))
          elif c == 'C':
              parts.append('%02d' % (day.year // 100))
          elif c == 'j':
              parts.append('%03d' % year_day)
          elif c == 'a':
              parts.append(_full_days[week][:3])
          elif c == 'A':
              parts.append(_full_days[week])
          elif c in 'bh':
              parts.append(_month_names[day.month])
          elif c == 'B':
              parts.append(_full_months[day.month - 1])
          elif c == 'p':
              parts.append('AM' if clock.hour < 12 else 'PM')
          elif c == 'P':
              parts.append('am' if clock.hour < 12 else 'pm')
          elif c == 'w':
              parts.append('%d' % ((week + 1) % 7))
          elif c == 'u':
              parts.append('%d' % (week + 1))
          elif c == 'U':
              parts.append('%02d' % ((year_day + 6 - (week + 1) % 7) // 7))
          elif c == 'W':
              parts.append('%02d' % ((year_day + 6 - week) // 7))
          elif c == 'G':
              parts.append('%d' % day.isocalendar()[0])
          elif c == 'g':
              parts.append('%02d' % (day.isocalendar()[0] % 100))
          elif c == 'V':
              parts.append('%02d' % day.isocalendar()[1])
          elif c == 'z':
              parts.append(_offset_text(offset, ''))
          elif c == 'Z':
              parts.append((zone or '').replace('%', '%%'))
          elif c == 'c':
              parts.append(_formatted('%a %b %e %H:%M:%S %Y', moment))
          elif c in 'xD':
              parts.append(_formatted('%m/%d/%y', moment))
          elif c in 'XT':
              parts.append(_formatted('%H:%M:%S', moment))
          elif c == 'F':
              parts.append(_formatted('%Y-%m-%d', moment))
          elif c == 'R':
              parts.append(_formatted('%H:%M', moment))
          elif c == 'r':
              parts.append(_formatted('%I:%M:%S %p', moment))
          elif c == 's':
              parts.append('%d' % ((_ordinal(day.year, day.month, day.day) - 719163) * 86400
                                   + clock.hour * 3600 + clock.minute * 60 + clock.second))
          elif c == 'n':
              parts.append('\n')
          elif c == 't':
              parts.append('\t')
          elif c == '%':
              parts.append('%')
          else:
              parts.append('%' + c)
      return ''.join(parts)

  def _rounded(n, d):
      q, r = divmod(n, d)
      if 2 * r > d or 2 * r == d and q % 2:
          q += 1
      return q

  _duration_names = ('days', 'seconds', 'microseconds', 'milliseconds', 'minutes', 'hours', 'weeks')

  class timedelta:
      _complaint_name = 'datetime.timedelta'
      __slots__ = ('_days', '_seconds', '_microseconds')
      def __new__(cls, *args, **kwargs):
          days, seconds, microseconds, milliseconds, minutes, hours, weeks = _taken(
              args, kwargs, _duration_names, 0, (), None, '__new__()', '__new__()', 0)
          total, part = 0, 0.0
          for name, value, unit in (('microseconds', microseconds, 1),
                                    ('milliseconds', milliseconds, 1000),
                                    ('seconds', seconds, 1000000), ('minutes', minutes, 60000000),
                                    ('hours', hours, 3600000000), ('days', days, 86400000000),
                                    ('weeks', weeks, 604800000000)):
              if isinstance(value, int):
                  total += value * unit
              elif isinstance(value, float):
                  if value != value:
                      raise ValueError('cannot convert float NaN to integer')
                  if value in (float('inf'), float('-inf')):
                      raise OverflowError('cannot convert float infinity to integer')
                  fraction, whole = _modf(value)
                  total += int(whole) * unit
                  if fraction:
                      fraction, whole = _modf(fraction * unit)
                      total += int(whole)
                      part += fraction
              else:
                  raise TypeError('unsupported type for timedelta %s component: %s'
                                  % (name, _named(value)))
          if part:
              whole = round(part)
              if abs(part - int(part)) == 0.5:
                  odd = total & 1
                  whole = 2 * round((part + odd) * 0.5) - odd
              total += int(whole)
          return _duration(total, cls)
      days, seconds = _Member('_days'), _Member('_seconds')
      microseconds = _Member('_microseconds')
      def _total(self):
          return (self._days * 86400 + self._seconds) * 1000000 + self._microseconds
      def total_seconds(self):
          return self._total() / 10 ** 6
      def __repr__(self):
          parts = []
          if self._days:
              parts.append('days=%d' % self._days)
          if self._seconds:
              parts.append('seconds=%d' % self._seconds)
          if self._microseconds:
              parts.append('microseconds=%d' % self._microseconds)
          return '%s(%s)' % (_shown_class(self), ', '.join(parts) or '0')
      def __str__(self):
          s = '%d:%02d:%02d' % (self._seconds // 3600, self._seconds // 60 % 60,
                                self._seconds % 60)
          if self._days:
              s = '%d day%s, %s' % (self._days, 's' if abs(self._days) != 1 else '', s)
          if self._microseconds:
              s += '.%06d' % self._microseconds
          return s
      def __add__(self, other):
          if isinstance(other, timedelta):
              return _duration(self._total() + other._total())
          return NotImplemented
      __radd__ = __add__
      def __sub__(self, other):
          if isinstance(other, timedelta):
              return _duration(self._total() - other._total())
          return NotImplemented
      def __rsub__(self, other):
          if isinstance(other, timedelta):
              return _duration(other._total() - self._total())
          return NotImplemented
      def __neg__(self):
          return _duration(-self._total())
      def __pos__(self):
          return self
      def __abs__(self):
          return -self if self._days < 0 else self
      def __mul__(self, other):
          if isinstance(other, int):
              return _duration(self._total() * other)
          if isinstance(other, float):
              n, d = other.as_integer_ratio()
              return _duration(_rounded(self._total() * n, d))
          return NotImplemented
      __rmul__ = __mul__
      def __floordiv__(self, other):
          if isinstance(other, timedelta):
              return self._total() // other._total()
          if isinstance(other, int):
              return _duration(self._total() // other)
          return NotImplemented
      def __truediv__(self, other):
          if isinstance(other, timedelta):
              return self._total() / other._total()
          if isinstance(other, int):
              if other < 0:
                  return _duration(_rounded(-self._total(), -other))
              return _duration(_rounded(self._total(), other))
          if isinstance(other, float):
              n, d = other.as_integer_ratio()
              if n < 0:
                  n, d = -n, -d
              return _duration(_rounded(d * self._total(), n))
          return NotImplemented
      def __mod__(self, other):
          if isinstance(other, timedelta):
              return _duration(self._total() % other._total())
          return NotImplemented
      def __divmod__(self, other):
          if isinstance(other, timedelta):
              q, r = divmod(self._total(), other._total())
              return q, _duration(r)
          return NotImplemented
      def __eq__(self, other):
          if not isinstance(other, timedelta):
              return NotImplemented
          return self._total() == other._total()
      def __lt__(self, other):
          if not isinstance(other, timedelta):
              return NotImplemented
          return self._total() < other._total()
      def __le__(self, other):
          if not isinstance(other, timedelta):
              return NotImplemented
          return self._total() <= other._total()
      def __gt__(self, other):
          if not isinstance(other, timedelta):
              return NotImplemented
          return self._total() > other._total()
      def __ge__(self, other):
          if not isinstance(other, timedelta):
              return NotImplemented
          return self._total() >= other._total()
      def __hash__(self):
          return hash((self._days, self._seconds, self._microseconds))
      def __bool__(self):
          return self._total() != 0

  def _named(value):
      kind = type(value)
      own = kind.__module__ == 'datetime'
      return getattr(kind, '_complaint_name', kind.__name__) if own else kind.__name__

  def _shown_class(value):
      kind = type(value)
      lead = 'datetime.' if kind.__module__ == 'datetime' else ''
      return lead + kind.__qualname__

  def _duration(total, cls=timedelta):
      days, rest = divmod(total, 86400000000)
      if abs(days) > 999999999:
          raise OverflowError('days=%d; must have magnitude <= 999999999' % days)
      self = object.__new__(cls)
      self._days = days
      self._seconds, self._microseconds = divmod(rest, 1000000)
      return self

  timedelta.min = _duration(-999999999 * 86400000000)
  timedelta.max = _duration(1000000000 * 86400000000 - 1)
  timedelta.resolution = _duration(1)

  class tzinfo:
      _complaint_name = 'datetime.tzinfo'
      def tzname(self, dt):
          raise NotImplementedError('a tzinfo subclass must implement tzname()')
      def utcoffset(self, dt):
          raise NotImplementedError('a tzinfo subclass must implement utcoffset()')
      def dst(self, dt):
          raise NotImplementedError('a tzinfo subclass must implement dst()')
      def fromutc(self, dt):
          offset, dst = dt.utcoffset(), dt.dst()
          if offset is None:
              raise ValueError('fromutc: non-None utcoffset() result required')
          delta = offset - dst
          if delta:
              dt += delta
              dst = dt.dst()
          return dt + dst

  class timezone(tzinfo):
      _complaint_name = 'datetime.timezone'
      def __new__(cls, offset, name=None):
          if not isinstance(offset, timedelta):
              raise TypeError('timezone() argument 1 must be datetime.timedelta, not %s'
                              % _named(offset))
          if name is None and not offset:
              return cls.utc
          if name is not None and not isinstance(name, str):
              raise TypeError('timezone() argument 2 must be str, not %s' % _named(name))
          if not abs(offset) < timedelta(1):
              raise ValueError('offset must be a timedelta strictly between -timedelta(hours=24) '
                               'and timedelta(hours=24), not %r.' % (offset,))
          return _zone(cls, offset, name)
      def utcoffset(self, dt):
          return self._offset
      def tzname(self, dt):
          if self._name is not None:
              return self._name
          return 'UTC' + _offset_text(self._offset) if self._offset else 'UTC'
      def dst(self, dt):
          return None
      def fromutc(self, dt):
          return dt + self._offset
      def __eq__(self, other):
          return self._offset == other._offset if isinstance(other, timezone) else NotImplemented
      def __hash__(self):
          return hash(self._offset)
      def __repr__(self):
          if self is timezone.utc:
              return 'datetime.timezone.utc'
          if self._name is None:
              return '%s(%r)' % (_shown_class(self), self._offset)
          return '%s(%r, %r)' % (_shown_class(self), self._offset, self._name)
      def __str__(self):
          return self.tzname(None)

  def _zone(cls, offset, name):
      self = object.__new__(cls)
      self._offset, self._name = offset, name
      return self

  timezone.utc = UTC = _zone(timezone, timedelta(0), None)
  timezone.min = _zone(timezone, -timedelta(hours=23, minutes=59), None)
  timezone.max = _zone(timezone, timedelta(hours=23, minutes=59), None)

  class IsoCalendarDate(tuple):
      __slots__ = ()
      year = property(lambda self: self[0])
      week = property(lambda self: self[1])
      weekday = property(lambda self: self[2])
      def __repr__(self):
          return 'datetime.IsoCalendarDate(year=%s, week=%s, weekday=%s)' % tuple(self)

  class struct_time(tuple):
      __slots__ = ()
      _names = ('tm_year', 'tm_mon', 'tm_mday', 'tm_hour', 'tm_min', 'tm_sec', 'tm_wday',
                'tm_yday', 'tm_isdst')
      def __getattr__(self, name):
          if name in self._names:
              return self[self._names.index(name)]
          raise AttributeError("'time.struct_time' object has no attribute '%s'" % name)
      def __repr__(self):
          return 'time.struct_time(%s)' % ', '.join(
              ['%s=%r' % entry for entry in zip(self._names, self)])
  struct_time.__module__ = 'time'

  class date:
      _complaint_name = 'datetime.date'
      __slots__ = ('_year', '_month', '_day')
      def __new__(cls, *args, **kwargs):
          parts = _taken(args, kwargs, ('year', 'month', 'day'), 3, (0, 1, 2))
          self = object.__new__(cls)
          self._year, self._month, self._day = _check_date(*parts)
          return self
      year, month, day = _Field('_year'), _Field('_month'), _Field('_day')
      @classmethod
      def today(cls):
          return cls(2024, 1, 1)
      @classmethod
      def fromtimestamp(cls, timestamp, /):
          return cls.fromordinal(int(timestamp // 86400) + 719163)
      @classmethod
      def fromordinal(cls, n, /):
          if not isinstance(n, int):
              raise TypeError("'%s' object cannot be interpreted as an integer" % _named(n))
          if n < 1:
              raise ValueError('ordinal must be >= 1')
          year, month, day = _from_ordinal(n)
          return cls(year, month, day)
      @classmethod
      def fromisoformat(cls, text, /):
          if not isinstance(text, str):
              raise TypeError('fromisoformat: argument must be str')
          parts = _parsed_date(text)
          if parts is None:
              raise ValueError('Invalid isoformat string: %r' % text)
          return cls(*parts)
      @classmethod
      def fromisocalendar(cls, year, week, day):
          return cls(*_from_iso(year, week, day))
      def ctime(self):
          return '%s %s %2d 00:00:00 %04d' % (_day_names[self.weekday() + 1],
                                              _month_names[self._month], self._day, self._year)
      def strftime(self, format):
          return _formatted(format, (self, time(0), None, None))
      def __format__(self, format):
          if not isinstance(format, str):
              raise TypeError('must be str, not %s' % _named(format))
          return self.strftime(format) if format else str(self)
      def isoformat(self):
          return '%04d-%02d-%02d' % (self._year, self._month, self._day)
      def __str__(self):
          return self.isoformat()
      def __repr__(self):
          return '%s(%d, %d, %d)' % (_shown_class(self), self._year, self._month, self._day)
      def timetuple(self):
          n = self.toordinal()
          return struct_time((self._year, self._month, self._day, 0, 0, 0, (n + 6) % 7,
                              n - _days_before_year(self._year), -1))
      def toordinal(self):
          return _ordinal(self._year, self._month, self._day)
      def replace(self, year=None, month=None, day=None):
          return type(self)(self._year if year is None else year,
                            self._month if month is None else month,
                            self._day if day is None else day)
      def weekday(self):
          return (self.toordinal() + 6) % 7
      def isoweekday(self):
          return self.weekday() + 1
      def isocalendar(self):
          year, today = self._year, _ordinal(self._year, self._month, self._day)
          week, day = divmod(today - _iso_week_one(year), 7)
          if week < 0:
              year -= 1
              week, day = divmod(today - _iso_week_one(year), 7)
          elif week >= 52 and today >= _iso_week_one(year + 1):
              year, week = year + 1, 0
          return IsoCalendarDate((year, week + 1, day + 1))
      def _moved(self, days):
          n = self.toordinal() + days
          if not 1 <= n <= 3652059:
              raise OverflowError('date value out of range')
          return type(self).fromordinal(n)
      def __add__(self, other):
          return self._moved(other.days) if isinstance(other, timedelta) else NotImplemented
      __radd__ = __add__
      def __sub__(self, other):
          if isinstance(other, timedelta):
              return self._moved(-other.days)
          if isinstance(other, date):
              return timedelta(self.toordinal() - other.toordinal())
          return NotImplemented
      def _key(self):
          return self._year, self._month, self._day
      def _other_key(self, other):
          if isinstance(other, datetime):
              raise TypeError("can't compare datetime.datetime to datetime.date")
          return other._key()
      def __eq__(self, other):
          if isinstance(other, date) and not isinstance(other, datetime):
              return self._key() == other._key()
          return NotImplemented
      def __lt__(self, other):
          if not isinstance(other, date):
              return NotImplemented
          return self._key() < self._other_key(other)
      def __le__(self, other):
          if not isinstance(other, date):
              return NotImplemented
          return self._key() <= self._other_key(other)
      def __gt__(self, other):
          if not isinstance(other, date):
              return NotImplemented
          return self._key() > self._other_key(other)
      def __ge__(self, other):
          if not isinstance(other, date):
              return NotImplemented
          return self._key() >= self._other_key(other)
      def __hash__(self):
          return hash(self._key())

  def _from_iso(year, week, day):
      if not MINYEAR <= year <= MAXYEAR:
          raise ValueError('Year is out of range: %d' % year)
      days = _iso_week_one(year + 1) - _iso_week_one(year)
      if not 1 <= week <= days // 7:
          raise ValueError('Invalid week: %d' % week)
      if not 1 <= day <= 7:
          raise ValueError('Invalid weekday: %d (range is [1, 7])' % day)
      return _from_ordinal(_iso_week_one(year) + (week - 1) * 7 + day - 1)

  def _numbers(*texts):
      if all(text.isdigit() and text.isascii() for text in texts):
          return [int(text) for text in texts]

  def _parsed_date(s):
      size = len(s)
      if size == 10 and s[4] == s[7] == '-' and s[5] != 'W':
          return _numbers(s[:4], s[5:7], s[8:])
      if size == 8 and 'W' not in s and '-' not in s:
          return _numbers(s[:4], s[4:6], s[6:])
      if 'W' in s:
          plain = s.replace('-', '')
          shapes = dict([(7, 'xxxxWxx'), (8, 'xxxxWxxx')])
          if len(plain) not in shapes or plain[4] != 'W':
              return None
          if s != plain and s not in (plain[:4] + '-' + plain[4:],
                                      plain[:4] + '-' + plain[4:7] + '-' + plain[7:]):
              return None
          parts = _numbers(plain[:4], plain[5:7], plain[7:] or '1')
          return parts and _from_iso(*parts)
      return None

  def _parsed_clock(s):
      # hours, minutes, seconds and microseconds
      main, dot, fraction = s.replace(',', '.').partition('.')
      if ':' in main:
          texts = main.split(':')
      else:
          texts = [main[i:i + 2] for i in range(0, len(main), 2)]
      if not 1 <= len(texts) <= 3 or any(len(text) != 2 for text in texts):
          return None
      parts = _numbers(*texts)
      if parts is None or dot and (len(texts) != 3 or not fraction.isdigit()):
          return None
      parts += [0] * (3 - len(parts))
      return parts + [int((fraction + '000000')[:6])]

  def _parsed_time(s):
      # the time of day and its zone
      zone, clock = None, s
      for place, c in enumerate(s):
          if c in '+-':
              zone, clock = s[place:], s[:place]
              break
      else:
          if s[-1:] == 'Z':
              zone, clock = 'Z', s[:-1]
      parts = _parsed_clock(clock)
      if parts is None or zone is None:
          return parts and parts + [None]
      if zone == 'Z':
          return parts + [timezone.utc]
      offset = _parsed_clock(zone[1:])
      if offset is None:
          return None
      delta = timedelta(hours=offset[0], minutes=offset[1], seconds=offset[2],
                        microseconds=offset[3])
      return parts + [timezone(-delta if zone[0] == '-' else delta)]

  class time:
      _complaint_name = 'datetime.time'
      __slots__ = ('_hour', '_minute', '_second', '_microsecond', '_tzinfo', '_fold')
      def __new__(cls, *args, **kwargs):
          hour, minute, second, microsecond, tzinfo, fold = _taken(
              args, kwargs, ('hour', 'minute', 'second', 'microsecond', 'tzinfo', 'fold'), 0,
              (0, 1, 2, 3, 5), 5)
          self = object.__new__(cls)
          parts = _check_time(hour, minute, second, microsecond, fold)
          _check_zone(tzinfo)
          self._hour, self._minute, self._second, self._microsecond = parts
          self._tzinfo, self._fold = tzinfo, fold
          return self
      hour, minute, second = _Field('_hour'), _Field('_minute'), _Field('_second')
      microsecond, tzinfo, fold = _Field('_microsecond'), _Field('_tzinfo'), _Field('_fold')
      @classmethod
      def fromisoformat(cls, text, /):
          if not isinstance(text, str):
              raise TypeError('fromisoformat: argument must be str')
          parts = _parsed_time(text[1:] if text[:1] == 'T' else text)
          if parts is None:
              raise ValueError('Invalid isoformat string: %r' % text)
          return cls(*parts)
      def isoformat(self, timespec='auto'):
          return _time_text(self._hour, self._minute, self._second, self._microsecond,
                            timespec) + _offset_text(self.utcoffset())
      def __str__(self):
          return self.isoformat()
      def strftime(self, format):
          return _formatted(format, (date(1900, 1, 1), self, self.utcoffset(), self.tzname()))
      def __format__(self, format):
          return self.strftime(format) if format else str(self)
      def utcoffset(self):
          return None if self._tzinfo is None else self._tzinfo.utcoffset(None)
      def tzname(self):
          return None if self._tzinfo is None else self._tzinfo.tzname(None)
      def dst(self):
          return None if self._tzinfo is None else self._tzinfo.dst(None)
      def replace(self, hour=None, minute=None, second=None, microsecond=None, tzinfo=True, *,
                  fold=None):
          return type(self)(self._hour if hour is None else hour,
                            self._minute if minute is None else minute,
                            self._second if second is None else second,
                            self._microsecond if microsecond is None else microsecond,
                            self._tzinfo if tzinfo is True else tzinfo,
                            fold=self._fold if fold is None else fold)
      def __repr__(self):
          parts = [self._hour, self._minute]
          if self._second or self._microsecond:
              parts.append(self._second)
          if self._microsecond:
              parts.append(self._microsecond)
          text = ', '.join(map(str, parts))
          if self._tzinfo is not None:
              text += ', tzinfo=%r' % (self._tzinfo,)
          if self._fold:
              text += ', fold=1'
          return '%s(%s)' % (_shown_class(self), text)
      def _key(self):
          total = (self._hour * 60 + self._minute) * 60 + self._second
          offset = self.utcoffset()
          if offset is not None:
              total -= offset.days * 86400 + offset.seconds
          return total, self._microsecond
      def _keys(self, other):
          if (self.utcoffset() is None) != (other.utcoffset() is None):
              raise TypeError("can't compare offset-naive and offset-aware times")
          return self._key(), other._key()
      def __eq__(self, other):
          if not isinstance(other, time):
              return NotImplemented
          if (self.utcoffset() is None) != (other.utcoffset() is None):
              return False
          return self._key() == other._key()
      def __lt__(self, other):
          if not isinstance(other, time):
              return NotImplemented
          a, b = self._keys(other)
          return a < b
      def __le__(self, other):
          if not isinstance(other, time):
              return NotImplemented
          a, b = self._keys(other)
          return a <= b
      def __gt__(self, other):
          if not isinstance(other, time):
              return NotImplemented
          a, b = self._keys(other)
          return a > b
      def __ge__(self, other):
          if not isinstance(other, time):
              return NotImplemented
          a, b = self._keys(other)
          return a >= b
      def __hash__(self):
          return hash(self._key())

  _time_class = time

  class datetime(date):
      _complaint_name = 'datetime.datetime'
      __slots__ = ('_hour', '_minute', '_second', '_microsecond', '_tzinfo', '_fold')
      def __new__(cls, *args, **kwargs):
          year, month, day, hour, minute, second, microsecond, tzinfo, fold = _taken(
              args, kwargs, ('year', 'month', 'day', 'hour', 'minute', 'second', 'microsecond',
                             'tzinfo', 'fold'), 3, (0, 1, 2, 3, 4, 5, 6, 8), 8)
          self = object.__new__(cls)
          self._year, self._month, self._day = _check_date(year, month, day)
          parts = _check_time(hour, minute, second, microsecond, fold)
          _check_zone(tzinfo)
          self._hour, self._minute, self._second, self._microsecond = parts
          self._tzinfo, self._fold = tzinfo, fold
          return self
      hour, minute, second = _Field('_hour'), _Field('_minute'), _Field('_second')
      microsecond, tzinfo, fold = _Field('_microsecond'), _Field('_tzinfo'), _Field('_fold')
      @classmethod
      def now(cls, tz=None):
          return cls(2024, 1, 1, tzinfo=tz)
      @classmethod
      def utcnow(cls):
          return cls(2024, 1, 1)
      @classmethod
      def today(cls):
          return cls(2024, 1, 1)
      @classmethod
      def fromtimestamp(cls, timestamp, tz=None):
          micro = _rounded(*(lambda n, d: (n * 1000000, d))(*timestamp.as_integer_ratio()))
          made = cls(1970, 1, 1) + _duration(micro)
          if tz is not None:
              made = tz.fromutc(made.replace(tzinfo=tz))
          return made
      @classmethod
      def utcfromtimestamp(cls, timestamp, /):
          return cls.fromtimestamp(timestamp)
      @classmethod
      def fromordinal(cls, n, /):
          year, month, day = _from_ordinal(n)
          return cls(year, month, day)
      @classmethod
      def combine(cls, date, time, tzinfo=True):
          return cls(date.year, date.month, date.day, time.hour, time.minute, time.second,
                     time.microsecond, time.tzinfo if tzinfo is True else tzinfo, fold=time.fold)
      @classmethod
      def fromisoformat(cls, text, /):
          if not isinstance(text, str):
              raise TypeError('fromisoformat: argument must be str')
          for size in (10, 8, 7):
              day = _parsed_date(text[:size]) if len(text) >= size else None
              if day is not None and len(text) == size:
                  return cls(*day)
              if day is not None and not text[size].isdigit():
                  clock = _parsed_time(text[size + 1:])
                  if clock is not None:
                      return cls(*(list(day) + clock))
          raise ValueError('Invalid isoformat string: %r' % text)
      @classmethod
      def strptime(cls, text, format, /):
          for name, value in ((1, text), (2, format)):
              if not isinstance(value, str):
                  raise TypeError('strptime() argument %d must be str, not %s'
                                  % (name, _named(value)))
          return _parsed(cls, text, format)
      def date(self):
          return _date_class(self._year, self._month, self._day)
      def time(self):
          return _time_class(self._hour, self._minute, self._second, self._microsecond,
                             fold=self._fold)
      def timetz(self):
          return _time_class(self._hour, self._minute, self._second, self._microsecond,
                             self._tzinfo, fold=self._fold)
      def timetuple(self):
          n = self.toordinal()
          dst = self.dst()
          return struct_time((self._year, self._month, self._day, self._hour, self._minute,
                              self._second, (n + 6) % 7, n - _days_before_year(self._year),
                              -1 if dst is None else int(bool(dst))))
      def utctimetuple(self):
          offset = self.utcoffset()
          parts = (self - offset if offset else self).timetuple()
          return struct_time(parts[:8] + (0,))
      def timestamp(self):
          offset = self.utcoffset()
          zone = None if offset is None else timezone.utc
          return (self - type(self)(1970, 1, 1, tzinfo=zone)).total_seconds()
      def replace(self, year=None, month=None, day=None, hour=None, minute=None, second=None,
                  microsecond=None, tzinfo=True, *, fold=None):
          return type(self)(self._year if year is None else year,
                            self._month if month is None else month,
                            self._day if day is None else day,
                            self._hour if hour is None else hour,
                            self._minute if minute is None else minute,
                            self._second if second is None else second,
                            self._microsecond if microsecond is None else microsecond,
                            self._tzinfo if tzinfo is True else tzinfo,
                            fold=self._fold if fold is None else fold)
      def astimezone(self, tz=None):
          if tz is None:
              tz = timezone.utc
          offset = self.utcoffset() or timedelta(0)
          if tz is self._tzinfo:
              return self
          return tz.fromutc((self - offset).replace(tzinfo=tz))
      def ctime(self):
          return '%s %s %2d %02d:%02d:%02d %04d' % (
              _day_names[self.weekday() + 1], _month_names[self._month], self._day, self._hour,
              self._minute, self._second, self._year)
      def isoformat(self, sep='T', timespec='auto'):
          if not isinstance(sep, str) or len(sep) != 1:
              raise TypeError('isoformat() argument 1 must be a unicode character, not %s'
                              % _named(sep))
          return '%04d-%02d-%02d%s' % (self._year, self._month, self._day, sep) + _time_text(
              self._hour, self._minute, self._second, self._microsecond,
              timespec) + _offset_text(self.utcoffset())
      def strftime(self, format):
          return _formatted(format, (self, self, self.utcoffset(), self.tzname()))
      def __str__(self):
          return self.isoformat(sep=' ')
      def __repr__(self):
          parts = [self._year, self._month, self._day, self._hour, self._minute]
          if self._second or self._microsecond:
              parts.append(self._second)
          if self._microsecond:
              parts.append(self._microsecond)
          text = ', '.join(map(str, parts))
          if self._tzinfo is not None:
              text += ', tzinfo=%r' % (self._tzinfo,)
          if self._fold:
              text += ', fold=1'
          return '%s(%s)' % (_shown_class(self), text)
      def utcoffset(self):
          return None if self._tzinfo is None else self._tzinfo.utcoffset(self)
      def tzname(self):
          return None if self._tzinfo is None else self._tzinfo.tzname(self)
      def dst(self):
          return None if self._tzinfo is None else self._tzinfo.dst(self)
      def _total(self):
          return (((self.toordinal() * 24 + self._hour) * 60 + self._minute) * 60
                  + self._second) * 1000000 + self._microsecond
      def _shifted(self, micro):
          days, rest = divmod(self._total() + micro, 86400000000)
          if not 1 <= days <= 3652059:
              raise OverflowError('date value out of range')
          seconds, microsecond = divmod(rest, 1000000)
          year, month, day = _from_ordinal(days)
          return type(self)(year, month, day, seconds // 3600, seconds // 60 % 60, seconds % 60,
                            microsecond, self._tzinfo)
      def __add__(self, other):
          if isinstance(other, timedelta):
              return self._shifted(other._total())
          return NotImplemented
      __radd__ = __add__
      def __sub__(self, other):
          if isinstance(other, timedelta):
              return self._shifted(-other._total())
          if not isinstance(other, datetime):
              return NotImplemented
          difference = _duration(self._total() - other._total())
          if self._tzinfo is other._tzinfo:
              return difference
          a, b = self.utcoffset(), other.utcoffset()
          if a == b:
              return difference
          if a is None or b is None:
              raise TypeError("can't subtract offset-naive and offset-aware datetimes")
          return difference + b - a
      def _key(self):
          offset = self.utcoffset()
          return self._total() - (0 if offset is None else offset._total())
      def _other_key(self, other):
          if not isinstance(other, datetime):
              raise TypeError("can't compare datetime.datetime to datetime.date")
          if (self.utcoffset() is None) != (other.utcoffset() is None):
              raise TypeError("can't compare offset-naive and offset-aware datetimes")
          return other._key()
      def __eq__(self, other):
          if not isinstance(other, datetime):
              return False if isinstance(other, date) else NotImplemented
          if (self.utcoffset() is None) != (other.utcoffset() is None):
              return False
          return self._key() == other._key()
      def __hash__(self):
          return hash(self._key())

  _date_class = date
  date.min, date.max, date.resolution = date(1, 1, 1), date(9999, 12, 31), timedelta(1)
  time.min, time.max = time(0), time(23, 59, 59, 999999)
  time.resolution = datetime.resolution = timedelta(microseconds=1)
  datetime.min, datetime.max = datetime(1, 1, 1), datetime(9999, 12, 31, 23, 59, 59, 999999)

  _widths = dict(d=2, m=2, H=2, I=2, M=2, S=2, j=3, Y=4, y=2, f=6, w=1, u=1, U=2, W=2, G=4, V=2)

  def _parsed(cls, text, format):
      full = format.replace('%c', '%a %b %d %H:%M:%S %Y').replace('%x', '%m/%d/%y').replace(
          '%X', '%H:%M:%S')
      mismatch = ValueError('time data %r does not match format %r' % (text, format))
      found, place, at = dict(), 0, 0
      while at < len(full):
          c = full[at]
          at += 1
          if c.isspace():
              if not text[place:place + 1].isspace():
                  raise mismatch
              while text[place:place + 1].isspace():
                  place += 1
              while full[at:at + 1].isspace():
                  at += 1
              continue
          if c != '%':
              if text[place:place + 1].lower() != c.lower():
                  raise mismatch
              place += 1
              continue
          c = full[at:at + 1]
          at += 1
          if not c:
              raise ValueError('stray %% in format %r' % format)
          if c == '%':
              if text[place:place + 1] != '%':
                  raise mismatch
              place += 1
          elif c in _widths:
              end = place
              while end < min(len(text), place + _widths[c]) and '0' <= text[end] <= '9':
                  end += 1
              least = 4 if c in 'YG' else 2 if c == 'y' else 1
              value = int(text[place:end] or '-1')
              while end - place > 1 and c in 'dmHIMSjUWV' and not _fits(c, value):
                  end -= 1
                  value = int(text[place:end])
              if end - place < least or not _fits(c, value):
                  raise mismatch
              found[c] = value * 10 ** (6 - (end - place)) if c == 'f' else value
              place = end
          elif c in 'aAbBp':
              names = dict(a=[n[:3] for n in _full_days], A=_full_days, b=_month_names[1:],
                           B=_full_months, p=['AM', 'PM'])[c]
              for number in sorted(range(len(names)), key=lambda n: -len(names[n])):
                  name = names[number]
                  if text[place:place + len(name)].lower() == name.lower():
                      found[c] = number
                      place += len(name)
                      break
              else:
                  raise mismatch
          elif c == 'z':
              if text[place:place + 1] == 'Z':
                  found[c] = timedelta(0)
                  place += 1
                  continue
              end = place + 1
              while end < len(text) and text[end] in '0123456789:.':
                  end += 1
              offset = _parsed_clock(text[place + 1:end])
              if text[place:place + 1] not in ('+', '-') or offset is None:
                  raise mismatch
              delta = timedelta(hours=offset[0], minutes=offset[1], seconds=offset[2],
                                microseconds=offset[3])
              found[c] = -delta if text[place] == '-' else delta
              place = end
          elif c == 'Z':
              for name in ('UTC', 'GMT'):
                  if text[place:place + 3].upper() == name:
                      found[c] = name
                      place += 3
                      break
              else:
                  raise mismatch
          else:
              raise ValueError("'%s' is a bad directive in format '%s'" % (c, format))
      if place != len(text):
          raise ValueError('unconverted data remains: %s' % text[place:])
      year = found.get('Y', 1900)
      if 'y' in found:
          year = found['y'] + (2000 if found['y'] <= 68 else 1900)
      month = found.get('m', found.get('b', found.get('B', 0)) + 1)
      day = found.get('d', 1)
      if 'j' in found and 'm' not in found:
          year, month, day = _from_ordinal(_days_before_year(year) + found['j'])
      elif 'G' in found and 'V' in found:
          weekday = found.get('u', found.get('a', found.get('A', 0)) + 1)
          year, month, day = _from_iso(found['G'], found['V'], weekday)
      hour = found.get('H', 0)
      if 'I' in found:
          hour = found['I'] % 12 + (12 if found.get('p') == 1 else 0)
      zone = None
      if 'z' in found:
          zone = timezone(found['z'], found['Z']) if 'Z' in found else timezone(found['z'])
      return cls(year, month, day, hour, found.get('M', 0), found.get('S', 0), found.get('f', 0),
                 zone)

  _RANGES = dict(d=(1, 31), m=(1, 12), H=(0, 23), I=(1, 12), M=(0, 59), S=(0, 61),
                 j=(1, 366), w=(0, 6), u=(1, 7), U=(0, 53), W=(0, 53), V=(0, 53))

  def _fits(c, value):
      low, high = _RANGES.get(c, (0, 999999))
      return low <= value <= high
"#

end SnippetRunner.Library
